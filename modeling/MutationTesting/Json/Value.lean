import MutationTesting.Number.Binary64

/-! Values of the JSON data format, and how records and closed vocabularies are read from them.

A whole number within sixty-four bits is kept apart from all other numbers. An object keeps its
fields in the order they were written, repetitions included: whoever reads a record decides what a
repetition means. -/
namespace MutationTesting

inductive Json where
  | null
  | bool (value : Bool)
  | int (value : Int)
  | real (value : Binary64)
  | str (value : String)
  | arr (items : List Json)
  | obj (fields : List (String × Json))
deriving Inhabited

namespace Json

mutual

/-- Structural equality, representation by representation. -/
def decEq : (a b : Json) → Decidable (a = b)
  | .null, .null => isTrue rfl
  | .bool a, .bool b => if h : a = b then isTrue (h ▸ rfl) else isFalse (by simp [h])
  | .int a, .int b => if h : a = b then isTrue (h ▸ rfl) else isFalse (by simp [h])
  | .real a, .real b => if h : a = b then isTrue (h ▸ rfl) else isFalse (by simp [h])
  | .str a, .str b => if h : a = b then isTrue (h ▸ rfl) else isFalse (by simp [h])
  | .arr a, .arr b =>
    match decEqItems a b with
    | isTrue h => isTrue (h ▸ rfl)
    | isFalse h => isFalse (by simp [h])
  | .obj a, .obj b =>
    match decEqFields a b with
    | isTrue h => isTrue (h ▸ rfl)
    | isFalse h => isFalse (by simp [h])
  | .null, .bool _ | .null, .int _ | .null, .real _ | .null, .str _ | .null, .arr _
  | .null, .obj _ | .bool _, .null | .bool _, .int _ | .bool _, .real _ | .bool _, .str _
  | .bool _, .arr _ | .bool _, .obj _ | .int _, .null | .int _, .bool _ | .int _, .real _
  | .int _, .str _ | .int _, .arr _ | .int _, .obj _ | .real _, .null | .real _, .bool _
  | .real _, .int _ | .real _, .str _ | .real _, .arr _ | .real _, .obj _ | .str _, .null
  | .str _, .bool _ | .str _, .int _ | .str _, .real _ | .str _, .arr _ | .str _, .obj _
  | .arr _, .null | .arr _, .bool _ | .arr _, .int _ | .arr _, .real _ | .arr _, .str _
  | .arr _, .obj _ | .obj _, .null | .obj _, .bool _ | .obj _, .int _ | .obj _, .real _
  | .obj _, .str _ | .obj _, .arr _ => isFalse (by simp)

def decEqItems : (a b : List Json) → Decidable (a = b)
  | [], [] => isTrue rfl
  | [], _ :: _ | _ :: _, [] => isFalse (by simp)
  | x :: xs, y :: ys =>
    match decEq x y, decEqItems xs ys with
    | isTrue h, isTrue k => isTrue (h ▸ k ▸ rfl)
    | isFalse h, _ => isFalse (by simp [h])
    | _, isFalse k => isFalse (by simp [k])

def decEqFields : (a b : List (String × Json)) → Decidable (a = b)
  | [], [] => isTrue rfl
  | [], _ :: _ | _ :: _, [] => isFalse (by simp)
  | (k, x) :: xs, (l, y) :: ys =>
    if h : k = l then
      match decEq x y, decEqFields xs ys with
      | isTrue i, isTrue j => isTrue (h ▸ i ▸ j ▸ rfl)
      | isFalse i, _ => isFalse (by simp [i])
      | _, isFalse j => isFalse (by simp [j])
    else isFalse (by simp [h])

end

instance : DecidableEq Json := decEq

/-- The value under a key, the first one if the key is repeated. -/
def lookup? (key : String) : List (String × Json) → Option Json
  | [] => none
  | (k, v) :: rest => if k = key then some v else lookup? key rest

def occurrences (key : String) (fields : List (String × Json)) : Nat :=
  fields.countP fun f => f.1 = key

/-- No name of a record is written twice; other keys may be. -/
def distinct (names : List String) (fields : List (String × Json)) : Bool :=
  names.all fun name => occurrences name fields ≤ 1

/-- The slots of a record: an object gives each name its value or nothing, an array gives them in
the order of the names and may stop early but not run over. -/
def record? (names : List String) : Json → Option (List (Option Json))
  | .obj fields =>
    if distinct names fields then some (names.map fun name => lookup? name fields) else none
  | .arr items =>
    if items.length ≤ names.length then
      some ((List.range names.length).map fun i => items[i]?)
    else none
  | _ => none

def asString? : Json → Option String
  | .str s => some s
  | _ => none

def asBool? : Json → Option Bool
  | .bool b => some b
  | _ => none

def asNat? : Json → Option Nat
  | .int i => if 0 ≤ i then some i.toNat else none
  | _ => none

def asInt64? : Json → Option Int64
  | .int i =>
    if -9223372036854775808 ≤ i ∧ i < 9223372036854775808 then some (.ofInt i) else none
  | _ => none

/-- Any number, a whole one rounded to the nearest double. -/
def asReal? : Json → Option Binary64
  | .int i => some (.ofInt i)
  | .real x => some x
  | _ => none

def asList? {α : Type} (item : Json → Option α) : Json → Option (List α)
  | .arr items => items.mapM item
  | _ => none

/-- `null` stands for an absent value. -/
def asOption? {α : Type} (value : Json → Option α) : Json → Option (Option α)
  | .null => some none
  | j => (value j).map some

/-- A word of a closed vocabulary, alone or as the only key of an object whose value is `null`. -/
def asWord? {α : Type} (word : String → Option α) : Json → Option α
  | .str s => word s
  | .obj [(s, .null)] => word s
  | _ => none

def required {α : Type} (read : Json → Option α) (slot : Option Json) : Option α :=
  slot.bind read

/-- A slot that may be left out but, when filled, must hold a value. -/
def withDefault {α : Type} (default : α) (read : Json → Option α) : Option Json → Option α
  | none => some default
  | some j => read j

def optional {α : Type} (read : Json → Option α) : Option Json → Option (Option α)
  | none => some none
  | some j => asOption? read j

def ofNat (n : Nat) : Json := .int n

def ofOption {α : Type} (write : α → Json) : Option α → Json
  | none => .null
  | some a => write a

/-- A field that is written only when its value is present. -/
def field? {α : Type} (name : String) (write : α → Json) : Option α → List (String × Json)
  | none => []
  | some a => [(name, write a)]

end Json
end MutationTesting
