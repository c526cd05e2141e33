import MutationTesting.Text.Lines

/-! Searching in a text finds exactly the blocks of neighbouring characters. -/
namespace MutationTesting.Text

private theorem occursIn_iff {needle cs : List Char} : occursIn needle cs = true ↔ needle <:+:
    cs := by
  induction cs with
  | nil => rw [occursIn, List.isEmpty_iff, List.infix_nil]
  | cons c cs ih =>
    rw [occursIn, Bool.or_eq_true, List.isPrefixOf_iff_prefix, ih, List.infix_cons_iff]

theorem contains_iff {text needle : String} :
    contains text needle = true ↔ needle.toList <:+: text.toList :=
  occursIn_iff

end MutationTesting.Text
