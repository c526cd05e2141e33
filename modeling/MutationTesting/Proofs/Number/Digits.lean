import Mathlib.Data.Int.Notation

/-! Whole numbers in decimal digits. -/
namespace MutationTesting

variable {m n : Nat} {i : Int} {c : Char}

theorem toList_toString (n : Nat) : (toString n).toList = Nat.toDigits 10 n := by
  rw [Nat.toString_eq_ofList_toDigits, String.toList_ofList]

theorem toDigits_inj : Nat.toDigits 10 m = Nat.toDigits 10 n ↔ m = n := by
  refine ⟨fun h => ?_, fun h => by rw [h]⟩
  calc
    m = Nat.ofDigitChars 10 (Nat.toDigits 10 m) 0 := Nat.ofDigitChars_ten_toDigits.symm
    _ = Nat.ofDigitChars 10 (Nat.toDigits 10 n) 0 := by rw [h]
    _ = n := Nat.ofDigitChars_ten_toDigits

theorem isDigit_of_mem_toDigits (h : c ∈ Nat.toDigits 10 n) : c.isDigit = true :=
  Nat.isDigit_of_mem_toDigits (by decide) (by decide) h

theorem toList_toString_of_nonneg (h : 0 ≤ i) : (toString i).toList = Nat.toDigits 10 i.toNat := by
  obtain ⟨n, rfl⟩ := Int.eq_ofNat_of_zero_le h
  exact toList_toString n

theorem toList_toString_of_neg (h : i < 0) :
    (toString i).toList = '-' :: Nat.toDigits 10 (-i).toNat := by
  obtain ⟨n, rfl⟩ := Int.eq_negSucc_of_lt_zero h
  exact String.toList_append.trans (congrArg ('-' :: ·) (toList_toString (n + 1)))

theorem toInt_nonneg {value : Int64} (nonneg : 0 ≤ value) : 0 ≤ value.toInt := by
  simpa using Int64.le_iff_toInt_le.mp nonneg

theorem digits_of_nonneg {value : Int64} (nonneg : 0 ≤ value) :
    (toString value.toInt).toList = Nat.toDigits 10 value.toInt.toNat :=
  toList_toString_of_nonneg (toInt_nonneg nonneg)

end MutationTesting
