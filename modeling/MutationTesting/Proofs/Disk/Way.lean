import Mathlib.Data.List.Basic
import MutationTesting.Proofs.Disk.Write

/-! Where a location leads, whatever is there: dots are resolved one piece after the other, and a
double dot at the root stays there. -/
namespace MutationTesting

namespace Place

def step (p : Place) (piece : String) : Place :=
  if piece = "" ∨ piece = "." then p
  else if piece = ".." then p.dropLast
  else p ++ [piece]

def walk (p : Place) (pieces : List String) : Place := pieces.foldl step p

/-- One piece further, unless it leads above the start. -/
def stepWithin? (names : List String) (piece : String) : Option (List String) :=
  if piece = ".." ∧ names = [] then none else some (step names piece)

/-- The names that lead from a start to the end of the way, unless the way goes above its start. -/
def names? (pieces : List String) : Option (List String) := pieces.foldlM stepWithin? []

def StrictlyBelow (base p : Place) : Prop := ∃ name names, p = base ++ name :: names

variable {base p : Place} {pieces : List String} {x piece : String}

private theorem stepWithin?_eq_some {names names' : List String}
    (h : stepWithin? names piece = some names') : step (base ++ names) piece = base ++ names' := by
  unfold stepWithin? at h
  split at h
  · cases h
  · next within =>
    obtain rfl := Option.some.inj h
    unfold step
    split
    · rfl
    · split
      · next up => exact List.dropLast_append_of_ne_nil fun empty => within ⟨up, empty⟩
      · exact List.append_assoc _ _ _

/-- A way that stays below its start leads to the same names from everywhere. -/
private theorem walk_of_foldlM {names names' : List String}
    (h : pieces.foldlM stepWithin? names = some names') :
    walk (base ++ names) pieces = base ++ names' := by
  induction pieces generalizing names with
  | nil =>
    obtain rfl := Option.some.inj h
    rfl
  | cons piece pieces ih =>
    rw [List.foldlM_cons] at h
    obtain ⟨next, first, rest⟩ := Option.bind_eq_some_iff.mp h
    rw [walk, List.foldl_cons, stepWithin?_eq_some first]
    exact ih rest

theorem walk_of_names? {names : List String} (h : names? pieces = some names) :
    walk base pieces = base ++ names := by
  have all : walk (base ++ []) pieces = base ++ names := walk_of_foldlM h
  rwa [List.append_nil] at all

private theorem not_mem_step (absent : x ∉ p) (differs : x ≠ piece) : x ∉ step p piece := by
  unfold step
  split
  · exact absent
  · split
    · exact fun member => absent (List.dropLast_subset _ member)
    · simp [absent, differs]

/-- A name that is not on a way is not come back to. -/
private theorem not_mem_walk (absent : x ∉ p) (unnamed : x ∉ pieces) : x ∉ walk p pieces := by
  induction pieces generalizing p with
  | nil => exact absent
  | cons piece pieces ih =>
    rw [List.mem_cons, not_or] at unnamed
    exact ih (not_mem_step absent unnamed.1) unnamed.2

/-- A way that goes above its start leaves a folder with a name that it does not have itself. -/
theorem not_mem_walk_of_foldlM {names : List String} (absent : x ∉ names) (unnamed : x ∉ pieces)
    (h : pieces.foldlM stepWithin? names = none) : x ∉ walk ([x] ++ names) pieces := by
  induction pieces generalizing names with
  | nil => cases h
  | cons piece pieces ih =>
    rw [List.mem_cons, not_or] at unnamed
    rw [List.foldlM_cons] at h
    rw [walk, List.foldl_cons]
    cases first : stepWithin? names piece with
    | none =>
      unfold stepWithin? at first
      split at first
      · next above =>
        obtain ⟨rfl, rfl⟩ := above
        exact not_mem_walk List.not_mem_nil unnamed.2
      · cases first
    | some names' =>
      rw [first] at h
      have same : step ([] ++ names) piece = [] ++ names' := stepWithin?_eq_some first
      rw [List.nil_append, List.nil_append] at same
      rw [stepWithin?_eq_some first]
      exact ih (same ▸ not_mem_step absent unnamed.1) unnamed.2 h

end Place

namespace Location

variable {l m : Location}

def placeFrom (current : Place) (l : Location) : Place :=
  Place.walk (if l.isAbsolute then [] else current) l.pieces

private theorem go_append (seen cs ds : List Char) :
    pieces.go seen (cs ++ '/' :: ds) = pieces.go seen cs ++ pieces.go [] ds := by
  induction cs generalizing seen with
  | nil => rfl
  | cons c cs ih =>
    rw [List.cons_append, pieces.go, pieces.go]
    split
    · rw [ih, List.cons_append]
    · exact ih _

theorem pieces_append_slash (l m : Location) : (l ++ "/" ++ m).pieces = l.pieces ++ m.pieces := by
  have slash : "/".toList = ['/'] := rfl
  unfold pieces
  rw [String.toList_append, String.toList_append, slash, List.append_assoc, List.singleton_append,
    go_append, List.map_append]

private theorem go_of_plain {cs : List Char} (seen : List Char) (h : '/' ∉ cs) :
    pieces.go seen cs = [seen.reverse ++ cs] := by
  induction cs generalizing seen with
  | nil => rw [pieces.go, List.append_nil]
  | cons c cs ih =>
    rw [List.mem_cons, not_or] at h
    rw [pieces.go, if_neg (Ne.symm h.1), ih _ h.2, List.reverse_cons, List.append_assoc]
    rfl

/-- A text without slashes is one piece. -/
theorem pieces_of_plain (h : '/' ∉ l.toList) : l.pieces = [l] := by
  rw [pieces, go_of_plain [] h, List.map_singleton, List.reverse_nil, List.nil_append,
    String.ofList_toList]

private theorem plain_of_mem_go {seen cs piece : List Char} (plain : '/' ∉ seen)
    (h : piece ∈ pieces.go seen cs) : '/' ∉ piece := by
  induction cs generalizing seen with
  | nil =>
    rw [pieces.go, List.mem_singleton] at h
    subst h
    simpa using plain
  | cons c cs ih =>
    rw [pieces.go] at h
    split at h
    · rcases List.mem_cons.mp h with rfl | later
      · simpa using plain
      · exact ih List.not_mem_nil later
    · next other =>
      refine ih ?_ h
      rw [List.mem_cons, not_or]
      exact ⟨Ne.symm other, plain⟩

theorem plain_of_mem_pieces {piece : String} (h : piece ∈ l.pieces) : '/' ∉ piece.toList := by
  obtain ⟨cs, member, rfl⟩ := List.mem_map.mp h
  rw [String.toList_ofList]
  exact plain_of_mem_go List.not_mem_nil member

theorem not_isAbsolute_of_plain (h : '/' ∉ l.toList) : l.isAbsolute = false := by
  unfold isAbsolute
  rw [beq_eq_false_iff_ne]
  exact fun first => h (List.mem_of_mem_head? first)

/-- A name at the end of a location is one of its pieces and is no dots. -/
theorem fileName?_eq_some {name : String} (h : l.fileName? = some name) :
    name ∈ l.pieces ∧ name ≠ "" ∧ name ≠ "." ∧ name ≠ ".." := by
  unfold fileName? at h
  split at h
  · next t last =>
    obtain rfl := Option.some.inj h
    have member := List.mem_of_getLast? last
    rw [parts, List.mem_append] at member
    rcases member with lead | part
    · split at lead
      · simp at lead
      · split at lead <;> simp at lead
    · obtain ⟨piece, member, named⟩ := List.mem_filterMap.mp part
      unfold partOf? at named
      split at named
      · cases named
      · next counts =>
        split at named
        · cases named
        · next down =>
          obtain rfl := Part.name.inj (Option.some.inj named)
          exact ⟨member, fun same => counts (.inl same), fun same => counts (.inr same), down⟩
  · cases h

private theorem isAbsolute_append (given : l ≠ "") : (l ++ m).isAbsolute = l.isAbsolute := by
  have some_ : l.toList ≠ [] := fun empty => given (String.toList_eq_nil_iff.mp empty)
  rw [isAbsolute, isAbsolute, String.toList_append, List.head?_append_of_ne_nil _ some_]

theorem isAbsolute_join {directory : Location} (h : directory.isAbsolute = true) :
    (join directory l).isAbsolute = true := by
  have given : directory ≠ "" := by
    rintro rfl
    cases h
  unfold join
  split
  · assumption
  · rw [if_neg (by simpa using given)]
    split
    · rw [isAbsolute_append given, h]
    · rw [String.append_assoc, isAbsolute_append given, h]

/-- A name in a directory is the last piece of the way to it. What is in front does not depend on
the name. -/
theorem exists_pieces_join {directory : Location} (given : directory ≠ "") :
    ∃ front, ∀ name : String, '/' ∉ name.toList →
      (join directory name).pieces = front ++ [name] := by
  by_cases closed : (directory.toList.getLast? == some '/') = true
  · obtain ⟨front, ends⟩ := List.getLast?_eq_some_iff.mp (eq_of_beq closed)
    have same : directory = String.ofList front ++ "/" := by
      rw [← String.toList_inj, ends]
      simp
    refine ⟨pieces (String.ofList front), fun name plain => ?_⟩
    rw [join, not_isAbsolute_of_plain plain, if_neg Bool.false_ne_true, if_neg (by simpa using given),
      if_pos closed, same, pieces_append_slash, pieces_of_plain plain]
  · refine ⟨directory.pieces, fun name plain => ?_⟩
    rw [join, not_isAbsolute_of_plain plain, if_neg Bool.false_ne_true, if_neg (by simpa using given),
      if_neg closed, pieces_append_slash, pieces_of_plain plain]

theorem pieces_join {directory : Location} (h : l.isAbsolute = false)
    (closed : directory.pieces.getLast? ≠ some "") :
    (join directory l).pieces = directory.pieces ++ l.pieces := by
  unfold join
  rw [h, if_neg Bool.false_ne_true]
  split
  · next empty =>
    obtain rfl := String.isEmpty_iff.mp empty
    exact absurd rfl closed
  · split
    · next slash =>
      obtain ⟨front, ends⟩ := List.getLast?_eq_some_iff.mp (eq_of_beq slash)
      have same : directory = String.ofList front ++ "/" ++ "" := by
        rw [← String.toList_inj, ends]
        simp
      have empty : pieces "" = [""] := rfl
      rw [same, pieces_append_slash, empty] at closed
      exact absurd List.getLast?_concat closed
    · rw [pieces_append_slash]

/-- A relative location below a directory leads on from where the directory is. -/
theorem placeFrom_join (current : Place) (directory : Location) (h : l.isAbsolute = false) :
    placeFrom current (join directory l) = Place.walk (placeFrom current directory) l.pieces := by
  unfold join
  rw [h, if_neg Bool.false_ne_true]
  split
  · next empty =>
    obtain rfl := String.isEmpty_iff.mp empty
    rw [placeFrom, h]
    rfl
  · next given =>
    have given : directory ≠ "" := fun same => given (String.isEmpty_iff.mpr same)
    split
    · next closed =>
      -- The slash at the end is there already.
      obtain ⟨front, open_⟩ := List.getLast?_eq_some_iff.mp (eq_of_beq closed)
      have same : directory = String.ofList front ++ "/" ++ "" := by
        rw [← String.toList_inj, open_]
        simp
      have pieces : (directory ++ l).pieces = pieces (String.ofList front) ++ l.pieces := by
        rw [same, String.append_empty, pieces_append_slash]
      rw [placeFrom, placeFrom, isAbsolute_append given, pieces, same, pieces_append_slash,
        Place.walk, Place.walk, Place.walk, List.foldl_append, List.foldl_append]
      rfl
    · rw [placeFrom, placeFrom, String.append_assoc, isAbsolute_append given, ← String.append_assoc,
        pieces_append_slash, Place.walk, Place.walk, Place.walk, List.foldl_append]

end Location

namespace Disk

variable {d : Disk} {p q : Place} {l : Location}

private theorem walk_of_follow {pieces : List String} (h : d.follow p pieces = .ok q) :
    q = Place.walk p pieces := by
  induction pieces generalizing p with
  | nil => exact (Except.ok.inj h).symm
  | cons piece rest ih =>
    rw [follow_cons] at h
    rw [Place.walk, List.foldl_cons]
    split at h
    · next open_end =>
      simp only [Bool.and_eq_true, String.isEmpty_iff, List.isEmpty_iff] at open_end
      obtain ⟨⟨rfl, rfl⟩, -⟩ := open_end
      exact (Except.ok.inj h).symm
    · obtain ⟨_, -, h⟩ := bind_eq_ok.mp h
      unfold Place.step
      split at h
      · next same => rw [if_pos same]; exact ih h
      · next other =>
        rw [if_neg other]
        split at h
        · next up => rw [if_pos up]; exact ih h
        · next down =>
          rw [if_neg down]
          split at h
          · cases h
          · exact ih h

/-- A location that can be resolved leads where its pieces say. -/
theorem resolve_eq_ok (h : d.resolve l = .ok p) : p = Location.placeFrom d.current l := by
  unfold resolve at h
  split at h
  · cases h
  · split at h
    · cases h
    · exact walk_of_follow h

end Disk
end MutationTesting
