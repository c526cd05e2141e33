import MutationTesting.Json.Value

/-! Reading JSON text.

The grammar is the strict one: no marks before the value, nothing but blanks after it, no raw
control characters or halves of surrogate pairs in strings, no number beyond the range of doubles.
Nesting is limited by an argument; what is returned beside a value is what is left of the text. -/
namespace MutationTesting.Json

private abbrev Rest := List Char

def isSpace (c : Char) : Bool := c = ' ' || c = '\t' || c = '\n' || c = '\r'

def skipSpaces (cs : List Char) : List Char := cs.dropWhile isSpace

def hexValue? (c : Char) : Option Nat :=
  if '0' ≤ c ∧ c ≤ '9' then some (c.toNat - 48)
  else if 'a' ≤ c ∧ c ≤ 'f' then some (c.toNat - 87)
  else if 'A' ≤ c ∧ c ≤ 'F' then some (c.toNat - 55)
  else none

def hex4? (a b c d : Char) : Option Nat := do
  some (4096 * (← hexValue? a) + 256 * (← hexValue? b) + 16 * (← hexValue? c) + (← hexValue? d))

def simpleEscape? : Char → Option Char
  | '"' => some '"'
  | '\\' => some '\\'
  | '/' => some '/'
  | 'b' => some '\x08'
  | 'f' => some '\x0c'
  | 'n' => some '\n'
  | 'r' => some '\r'
  | 't' => some '\t'
  | _ => none

def isHighSurrogate (n : Nat) : Bool := 0xD800 ≤ n && n ≤ 0xDBFF

def isLowSurrogate (n : Nat) : Bool := 0xDC00 ≤ n && n ≤ 0xDFFF

/-- A string after its opening quote; `seen` holds its characters so far, the last one first. -/
def stringBody? (seen : List Char) : List Char → Option (String × Rest)
  | [] => none
  | '"' :: rest => some (String.ofList seen.reverse, rest)
  | '\\' :: 'u' :: a :: b :: c :: d :: rest => do
    let n ← hex4? a b c d
    if isHighSurrogate n then
      match rest with
      | '\\' :: 'u' :: e :: f :: g :: h :: rest => do
        let m ← hex4? e f g h
        if isLowSurrogate m then
          stringBody? (Char.ofNat (0x10000 + (n - 0xD800) * 0x400 + (m - 0xDC00)) :: seen) rest
        else none
      | _ => none
    else if isLowSurrogate n then none
    else stringBody? (Char.ofNat n :: seen) rest
  | '\\' :: e :: rest => do stringBody? ((← simpleEscape? e) :: seen) rest
  | c :: rest => if c.toNat < 0x20 then none else stringBody? (c :: seen) rest

def spanDigits (cs : List Char) : List Char × Rest := cs.span Char.isDigit

def digitsValue (ds : List Char) : Nat := ds.foldl (fun n d => 10 * n + (d.toNat - 48)) 0

/-- A whole part without superfluous zeros. -/
def wholePart? (cs : List Char) : Option (List Char × Rest) :=
  match spanDigits cs with
  | ([], _) => none
  | ('0' :: _ :: _, _) => none
  | r => some r

/-- The digits after a point, none if there is no point. -/
def fractionPart? : List Char → Option (List Char × Rest)
  | '.' :: rest =>
    match spanDigits rest with
    | ([], _) => none
    | r => some r
  | rest => some ([], rest)

/-- The exponent, absent if no letter announces it. -/
def exponentPart? : List Char → Option (Option Int × Rest)
  | c :: rest =>
    if c = 'e' ∨ c = 'E' then
      let (negative, rest) :=
        match rest with
        | '-' :: r => (true, r)
        | '+' :: r => (false, r)
        | r => (false, r)
      match spanDigits rest with
      | ([], _) => none
      | (ds, r) =>
        let n : Int := digitsValue ds
        some (some (if negative then -n else n), r)
    else some (none, c :: rest)
  | [] => some (none, [])

def finite? (x : Binary64) : Option Json := if x.isFinite then some (.real x) else none

/-- A whole number stays one within sixty-four bits; a negative zero and everything larger becomes
a double. -/
def wholeNumber? (negative : Bool) (n : Nat) : Option Json :=
  if negative then
    if n ≠ 0 ∧ n ≤ 9223372036854775808 then some (.int (-n)) else finite? (.ofDecimal true n 0)
  else if n < 18446744073709551616 then some (.int n) else finite? (.ofDecimal false n 0)

def number? (cs : List Char) : Option (Json × Rest) := do
  let (negative, cs) := match cs with
    | '-' :: r => (true, r)
    | r => (false, r)
  let (whole, cs) ← wholePart? cs
  let (fraction, cs) ← fractionPart? cs
  let (exponent, cs) ← exponentPart? cs
  let value ←
    if fraction.isEmpty ∧ exponent.isNone then wholeNumber? negative (digitsValue whole)
    else
      finite? (.ofDecimal negative (digitsValue (whole ++ fraction))
        (exponent.getD 0 - fraction.length))
  some (value, cs)

mutual

/-- A value with at most `depth` levels of arrays and objects. The fuel bounds the number of steps;
twice the length of the text is enough. -/
def value? : (fuel depth : Nat) → List Char → Option (Json × Rest)
  | 0, _, _ => none
  | fuel + 1, depth, cs =>
    match skipSpaces cs with
    | '"' :: rest => (stringBody? [] rest).map fun p => (.str p.1, p.2)
    | '[' :: rest =>
      match depth with
      | 0 => none
      | depth + 1 =>
        match skipSpaces rest with
        | ']' :: rest => some (.arr [], rest)
        | rest => (items? fuel depth [] rest).map fun p => (.arr p.1, p.2)
    | '{' :: rest =>
      match depth with
      | 0 => none
      | depth + 1 =>
        match skipSpaces rest with
        | '}' :: rest => some (.obj [], rest)
        | rest => (fields? fuel depth [] rest).map fun p => (.obj p.1, p.2)
    | 'n' :: 'u' :: 'l' :: 'l' :: rest => some (.null, rest)
    | 't' :: 'r' :: 'u' :: 'e' :: rest => some (.bool true, rest)
    | 'f' :: 'a' :: 'l' :: 's' :: 'e' :: rest => some (.bool false, rest)
    | rest => number? rest

/-- The items of a non-empty array, up to its closing bracket. -/
def items? : (fuel depth : Nat) → List Json → List Char → Option (List Json × Rest)
  | 0, _, _, _ => none
  | fuel + 1, depth, seen, cs => do
    let (item, rest) ← value? fuel depth cs
    match skipSpaces rest with
    | ',' :: rest => items? fuel depth (item :: seen) rest
    | ']' :: rest => some ((item :: seen).reverse, rest)
    | _ => none

/-- The fields of a non-empty object, up to its closing brace. -/
def fields? : (fuel depth : Nat) → List (String × Json) → List Char →
    Option (List (String × Json) × Rest)
  | 0, _, _, _ => none
  | fuel + 1, depth, seen, cs =>
    match skipSpaces cs with
    | '"' :: rest => do
      let (key, rest) ← stringBody? [] rest
      match skipSpaces rest with
      | ':' :: rest => do
        let (item, rest) ← value? fuel depth rest
        match skipSpaces rest with
        | ',' :: rest => fields? fuel depth ((key, item) :: seen) rest
        | '}' :: rest => some (((key, item) :: seen).reverse, rest)
        | _ => none
      | _ => none
    | _ => none

end

def parse? (depth : Nat) (text : String) : Option Json :=
  let cs := text.toList
  match value? (2 * cs.length + 2) depth cs with
  | some (v, rest) => if (skipSpaces rest).isEmpty then some v else none
  | none => none

def documentDepth : Nat := 127

def ofDocument? (text : String) : Option Json := parse? documentDepth text

end MutationTesting.Json
