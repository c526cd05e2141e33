/-! Patterns of the shell for names and other short texts. -/
namespace MutationTesting.Shell

inductive PatternItem where
  | char (c : Char)
  | one
  | many
  /-- A character in, or not in, one of some ranges. -/
  | among (isNegated : Bool) (ranges : List (Char × Char))
deriving DecidableEq

abbrev Pattern := List PatternItem

/-- A character of a text that may be a pattern; a quoted one stands for itself only. -/
structure Glyph where
  char : Char
  isQuoted : Bool := false
deriving DecidableEq

/-- The ranges up to the bracket that closes them; a bracket in front is an ordinary character. -/
def ranges? (isFirst : Bool) : List Glyph → Option (List (Char × Char) × List Glyph)
  | [] => none
  | ⟨']', false⟩ :: rest => if isFirst then (ranges? false rest).map fun p => ((']', ']') :: p.1, p.2)
    else some ([], rest)
  | ⟨a, _⟩ :: ⟨'-', false⟩ :: ⟨b, q⟩ :: rest =>
    if b = ']' && !q then some ([(a, a), ('-', '-')], rest)
    else (ranges? false rest).map fun p => ((a, b) :: p.1, p.2)
  | ⟨a, _⟩ :: rest => (ranges? false rest).map fun p => ((a, a) :: p.1, p.2)

/-- The pattern that a text stands for. There are at most `fuel` items. -/
def Pattern.ofGlyphs : (fuel : Nat) → List Glyph → Pattern
  | 0, _ | _, [] => []
  | fuel + 1, g :: rest =>
    if g.isQuoted then .char g.char :: ofGlyphs fuel rest
    else if g.char = '*' then .many :: ofGlyphs fuel rest
    else if g.char = '?' then .one :: ofGlyphs fuel rest
    else if g.char = '[' then
      let isNegated := match rest with
        | ⟨'!', false⟩ :: _ | ⟨'^', false⟩ :: _ => true
        | _ => false
      match ranges? true (if isNegated then rest.drop 1 else rest) with
      | some (rs, rest) => .among isNegated rs :: ofGlyphs fuel rest
      | none => .char '[' :: ofGlyphs fuel rest
    else .char g.char :: ofGlyphs fuel rest

def PatternItem.accepts (c : Char) : PatternItem → Bool
  | char d => c == d
  | one => true
  | many => true
  | among isNegated rs => (rs.any fun r => r.1 ≤ c && c ≤ r.2) != isNegated

def Pattern.isMatch : Pattern → List Char → Bool
  | [], cs => cs.isEmpty
  | .many :: ps, [] => isMatch ps []
  | .many :: ps, c :: cs => isMatch ps (c :: cs) || isMatch (.many :: ps) cs
  | _ :: _, [] => false
  | p :: ps, c :: cs => p.accepts c && isMatch ps cs
termination_by ps cs => ps.length + cs.length

def Pattern.dropStart (p : Pattern) (longest : Bool) (cs : List Char) : List Char :=
  let lengths := (List.range (cs.length + 1)).filter fun n => p.isMatch (cs.take n)
  match if longest then lengths.getLast? else lengths.head? with
  | some n => cs.drop n
  | none => cs

/-- A text without the shortest or the longest end that matches. -/
def Pattern.dropEnd (p : Pattern) (longest : Bool) (cs : List Char) : List Char :=
  let starts := (List.range (cs.length + 1)).filter fun n => p.isMatch (cs.drop n)
  match if longest then starts.head? else starts.getLast? with
  | some n => cs.take n
  | none => cs

end MutationTesting.Shell
