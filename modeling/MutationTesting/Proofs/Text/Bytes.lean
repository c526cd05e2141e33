import MutationTesting.Text.Bytes

/-! Cutting a text where it was put together. -/
namespace MutationTesting.Text

theorem byteSize_pos {text : String} (h : text ≠ "") : 0 < byteSize text.toList := by
  cases cs : text.toList with
  | nil => exact absurd (String.toList_eq_nil_iff.mp cs) h
  | cons c cs => exact Nat.lt_add_right _ c.utf8Size_pos

private theorem splitAtByte?_append (xs ys : List Char) :
    splitAtByte? (byteSize xs) (xs ++ ys) = some (xs, ys) := by
  induction xs with
  | nil => cases ys <;> rfl
  | cons c xs ih =>
    have positive := c.utf8Size_pos
    obtain ⟨n, hn⟩ : ∃ n, c.utf8Size + byteSize xs = n + 1 :=
      ⟨c.utf8Size + byteSize xs - 1, by omega⟩
    have fits : c.utf8Size ≤ n + 1 := by omega
    have rest : n + 1 - c.utf8Size = byteSize xs := by omega
    rw [byteSize, hn, List.cons_append, splitAtByte?, if_pos fits, rest, ih]
    rfl

theorem cut?_append (a b c : String) :
    cut? (a ++ b ++ c) (byteSize a.toList) (byteSize a.toList + byteSize b.toList) =
      some ⟨a, b, c⟩ := by
  have first : splitAtByte? (byteSize a.toList) (a ++ b ++ c).toList =
      some (a.toList, b.toList ++ c.toList) := by
    rw [String.toList_append, String.toList_append, List.append_assoc, splitAtByte?_append]
  have second := splitAtByte?_append b.toList c.toList
  rw [cut?, if_pos (by omega), first, Option.bind_some, Nat.add_sub_cancel_left, second]
  simp

end MutationTesting.Text
