import Mathlib.Data.Nat.Log
import MutationTesting.Number.Binary64

/-! Which numbers are finite after rounding. -/
namespace MutationTesting.Binary64

private theorem isFinite_ofCode {negative : Bool} {code : Nat} (small : code < infinityCode) :
    (ofCode negative code).isFinite = true := by
  have high : code / 4503599627370496 < 2048 := by
    rw [infinityCode] at small
    omega
  rw [ofCode, if_pos small, isFinite, decide_eq_true_eq, Binary64.code]
  show Fin.val (Fin.ofNat 2048 _) * _ + Fin.val (Fin.ofNat 4503599627370496 _) < _
  rw [Fin.val_ofNat, Fin.val_ofNat, Nat.mod_eq_of_lt high]
  omega

theorem roundQuotient_le (num den : Nat) : roundQuotient num den ≤ num / den + 1 := by
  simp only [roundQuotient]
  split_ifs <;> omega

/-- Rounding leaves fifty-three places of a number. -/
theorem div_pow_log2_lt (n : Nat) : n / Nat.pow 2 (n.log2 - 52) < 9007199254740992 := by
  have places : n.log2 + 1 ≤ n.log2 - 52 + 53 := by omega
  have bound : n < Nat.pow 2 (n.log2 - 52 + 53) :=
    Nat.lt_of_lt_of_le Nat.lt_log2_self (Nat.pow_le_pow_right (by decide) places)
  have parts : Nat.pow 2 (n.log2 - 52 + 53) = Nat.pow 2 (n.log2 - 52) * 9007199254740992 :=
    Nat.pow_add 2 (n.log2 - 52) 53
  exact Nat.div_lt_of_lt_mul (parts ▸ bound)

private theorem log2_mul_le (m n : Nat) : (m * n).log2 ≤ m.log2 + n.log2 + 1 := by
  by_cases zero : m * n = 0
  · rw [zero, Nat.log2_zero]
    exact Nat.zero_le _
  · refine Nat.le_of_lt_succ ((Nat.log2_lt zero).mpr ?_)
    have parts : m.log2 + n.log2 + 1 + 1 = (m.log2 + 1) + (n.log2 + 1) := by omega
    rw [Nat.succ_eq_add_one, parts, Nat.pow_add]
    exact Nat.mul_lt_mul'' Nat.lt_log2_self Nat.lt_log2_self

/-- A quotient is rounded to a finite number as long as its whole part, counted in the smallest
positive number, stays below the exponents of infinities. -/
private theorem isFinite_ofRatio {negative : Bool} {num den : Nat}
    (small : (num * unitsPerOne / den).log2 < 2097) :
    (ofRatio negative num den).isFinite = true := by
  refine isFinite_ofCode ?_
  have rounded := roundQuotient_le (num * unitsPerOne)
    (den * Nat.pow 2 ((num * unitsPerOne / den).log2 - 52))
  have cut := div_pow_log2_lt (num * unitsPerOne / den)
  rw [Nat.div_div_eq_div_mul] at cut
  show ((num * unitsPerOne / den).log2 - 52) * 4503599627370496 + roundQuotient _ _ < _
  rw [infinityCode]
  refine Nat.lt_of_le_of_lt (Nat.add_le_add_left (rounded.trans cut) _) ?_
  omega

/-- Whole numbers of sixty-four bits are far from the largest double. -/
theorem isFinite_ofInt {i : Int} (small : i.natAbs < 18446744073709551616) :
    (ofInt i).isFinite = true := by
  have digits : i.natAbs.log2 ≤ 64 := by
    by_cases zero : i.natAbs = 0
    · rw [zero, Nat.log2_zero]
      exact Nat.zero_le _
    · exact Nat.le_of_lt ((Nat.log2_lt zero).mpr small)
  refine isFinite_ofRatio ?_
  rw [Nat.div_one]
  have one : unitsPerOne.log2 = 1074 := by decide +kernel
  have scaled := log2_mul_le i.natAbs unitsPerOne
  omega

end MutationTesting.Binary64
