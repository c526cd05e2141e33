import MutationTesting.Regex.Charset

/-! Patterns: what a regular expression means, all flags and abbreviations resolved. -/
namespace MutationTesting.Regex

/-- Conditions on a place between two characters. -/
inductive Anchor where
  | textStart
  | textEnd
  | lineStart
  | lineEnd
  /-- Line borders where a carriage return ends a line too. -/
  | lineStartCrlf
  | lineEndCrlf
  | boundary (word : Charset)
  | noBoundary (word : Charset)
  | wordStart (word : Charset)
  | wordEnd (word : Charset)
  | wordStartHalf (word : Charset)
  | wordEndHalf (word : Charset)
deriving Inhabited

inductive Pattern where
  | empty
  | oneOf (set : Charset)
  | anchor (condition : Anchor)
  | group (index : Nat) (inner : Pattern)
  | concat (first second : Pattern)
  | either (first second : Pattern)
  /-- At least `min` and at most `max` times, as often as possible or, if lazy, as rarely. -/
  | repeated (lazy : Bool) (min : Nat) (max : Option Nat) (inner : Pattern)
deriving Inhabited

end MutationTesting.Regex
