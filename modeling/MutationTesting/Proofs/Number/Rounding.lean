import Mathlib.Data.Nat.Log
import Mathlib.Tactic.Ring
import MutationTesting.Proofs.Number.Binary64

/-! Rounding keeps the order of quotients.

Codes are ordered as the magnitudes they stand for, and of two quotients the smaller one is not
rounded to the larger code. Whole numbers of at most fifty-three binary places are not rounded. -/
namespace MutationTesting.Binary64

section Quotients

variable {a b c d : Nat}

private theorem div_le_div_of_cross (hb : 0 < b) (hd : 0 < d) (le : a * d ≤ c * b) :
    a / b ≤ c / d := by
  apply (Nat.le_div_iff_mul_le hd).mpr
  apply Nat.le_of_mul_le_mul_right _ hb
  calc a / b * d * b = a / b * b * d := Nat.mul_right_comm _ _ _
    _ ≤ a * d := Nat.mul_le_mul_right d (Nat.div_mul_le_self a b)
    _ ≤ c * b := le

private theorem div_le_roundQuotient (num den : Nat) : num / den ≤ roundQuotient num den := by
  simp only [roundQuotient]
  split_ifs <;> omega

private theorem roundQuotient_self (m : Nat) (hd : 0 < d) : roundQuotient (m * d) d = m := by
  have whole : m * d / d = m := Nat.mul_div_cancel m hd
  have rest : m * d % d = 0 := Nat.mul_mod_left m d
  simp only [roundQuotient, whole, rest]
  rw [if_pos (by omega)]

/-- A larger quotient is not rounded to a smaller number. -/
private theorem roundQuotient_mono (hb : 0 < b) (hd : 0 < d) (le : a * d ≤ c * b) :
    roundQuotient a b ≤ roundQuotient c d := by
  rcases Nat.lt_or_eq_of_le (div_le_div_of_cross hb hd le) with lt | same
  · calc roundQuotient a b ≤ a / b + 1 := roundQuotient_le a b
      _ ≤ c / d := lt
      _ ≤ roundQuotient c d := div_le_roundQuotient c d
  · -- Between the same whole numbers the remainders decide, and they are in the same order.
    have rest : a % b * d ≤ c % d * b := by
      have split_a := Nat.div_add_mod a b
      have split_c := Nat.div_add_mod c d
      rw [← split_a, ← split_c, Nat.add_mul, Nat.add_mul, same, Nat.mul_right_comm d,
        Nat.mul_comm d, Nat.mul_right_comm b] at le
      have shared : b * d * (c / d) = c / d * d * b := by ring
      omega
    have above : b < 2 * (a % b) → d < 2 * (c % d) := by
      intro half
      apply Nat.lt_of_mul_lt_mul_right (a := b)
      calc d * b = b * d := Nat.mul_comm d b
        _ < 2 * (a % b) * d := Nat.mul_lt_mul_of_pos_right half hd
        _ = 2 * (a % b * d) := Nat.mul_assoc _ _ _
        _ ≤ 2 * (c % d * b) := Nat.mul_le_mul_left 2 rest
        _ = 2 * (c % d) * b := (Nat.mul_assoc _ _ _).symm
    have below : 2 * (c % d) < d → 2 * (a % b) < b := by
      intro half
      apply Nat.lt_of_mul_lt_mul_right (a := d)
      calc 2 * (a % b) * d = 2 * (a % b * d) := Nat.mul_assoc _ _ _
        _ ≤ 2 * (c % d * b) := Nat.mul_le_mul_left 2 rest
        _ = 2 * (c % d) * b := (Nat.mul_assoc _ _ _).symm
        _ < d * b := Nat.mul_lt_mul_of_pos_right half hb
        _ = b * d := Nat.mul_comm d b
    simp only [roundQuotient, same]
    split_ifs <;> omega

private theorem roundQuotient_scale (hb : 0 < b) (hc : 0 < c) :
    roundQuotient (a * c) (b * c) = roundQuotient a b := by
  have cross : a * c * b = a * (b * c) := by ring
  exact Nat.le_antisymm (roundQuotient_mono (Nat.mul_pos hb hc) hb cross.le)
    (roundQuotient_mono hb (Nat.mul_pos hb hc) cross.ge)

end Quotients

section Codes

/-- The code that a quotient is rounded to, if there were no largest exponent. -/
def roundedCode (num den : Nat) : Nat :=
  let scaled := num * unitsPerOne
  let places := (scaled / den).log2 - 52
  places * 4503599627370496 + roundQuotient scaled (den * Nat.pow 2 places)

theorem ofRatio_eq_ofCode (negative : Bool) (num den : Nat) :
    ofRatio negative num den = ofCode negative (roundedCode num den) := rfl

private theorem unitsPerOne_eq : unitsPerOne = 2 ^ 1074 := by decide +kernel

theorem unitsPerOne_pos : 0 < unitsPerOne := by decide +kernel

/-- The whole part of a quotient keeps fifty-three places, or all it has. -/
private theorem le_div_pow_log2 (n : Nat) :
    n.log2 - 52 = 0 ∨ 4503599627370496 ≤ n / Nat.pow 2 (n.log2 - 52) := by
  rcases Nat.lt_or_ge n.log2 53 with few | many
  · left
    omega
  · right
    have positive : n ≠ 0 := by
      rintro rfl
      simp at many
    apply (Nat.le_div_iff_mul_le (Nat.two_pow_pos _)).mpr
    calc 4503599627370496 * Nat.pow 2 (n.log2 - 52) = 2 ^ (52 + (n.log2 - 52)) :=
          (Nat.pow_add 2 52 _).symm
      _ = 2 ^ n.log2 := by rw [Nat.add_sub_cancel' (by omega)]
      _ ≤ n := Nat.log2_self_le positive

private theorem log2_mul_two_pow_div {num den : Nat} (nonzero : num / den ≠ 0) (k : Nat) :
    (num * 2 ^ k / den).log2 = (num / den).log2 + k := by
  have positive : 0 < den := Nat.pos_of_ne_zero fun zero => nonzero (by rw [zero, Nat.div_zero])
  have lower := (Nat.le_div_iff_mul_le positive).mp (Nat.log2_self_le nonzero)
  have upper := (Nat.div_lt_iff_lt_mul positive).mp (Nat.lt_log2_self (n := num / den))
  have least : 2 ^ ((num / den).log2 + k) ≤ num * 2 ^ k / den := by
    apply (Nat.le_div_iff_mul_le positive).mpr
    rw [Nat.pow_add, Nat.mul_right_comm]
    exact Nat.mul_le_mul_right _ lower
  have most : num * 2 ^ k / den < 2 ^ ((num / den).log2 + k + 1) := by
    apply (Nat.div_lt_iff_lt_mul positive).mpr
    rw [Nat.add_right_comm, Nat.pow_add, Nat.mul_right_comm]
    exact Nat.mul_lt_mul_of_pos_right upper (Nat.two_pow_pos k)
  have scaled : num * 2 ^ k / den ≠ 0 :=
    Nat.ne_of_gt (Nat.lt_of_lt_of_le (Nat.two_pow_pos _) least)
  exact (Nat.log2_eq_iff scaled).mpr ⟨least, most⟩

/-- The code of a quotient of at least a thousandth, for which the places of the smallest numbers
need not be counted one by one. -/
def leadingCode (num den : Nat) : Nat :=
  let leading := num * 1024 / den
  if leading = 0 then roundedCode num den
  else (leading.log2 + 1012) * 4503599627370496 +
    roundQuotient (num * 4611686018427387904) (den * Nat.pow 2 leading.log2)

theorem roundedCode_eq_leadingCode {num den : Nat} (positive : 0 < den) :
    roundedCode num den = leadingCode num den := by
  by_cases zero : num * 1024 / den = 0
  · rw [leadingCode, if_pos zero]
  · have thousand : unitsPerOne = 1024 * 2 ^ 1064 := by decide +kernel
    have large : unitsPerOne = 4611686018427387904 * 2 ^ 1012 := by decide +kernel
    have places : (num * unitsPerOne / den).log2 - 52 = (num * 1024 / den).log2 + 1012 := by
      rw [thousand, ← Nat.mul_assoc, log2_mul_two_pow_div zero]
      omega
    have pow (k : Nat) : Nat.pow 2 k = 2 ^ k := rfl
    have unit := Nat.mul_pos positive (Nat.two_pow_pos (num * 1024 / den).log2)
    simp only [roundedCode, leadingCode, places, pow]
    rw [if_neg zero, large, ← Nat.mul_assoc, Nat.pow_add, ← Nat.mul_assoc,
      roundQuotient_scale unit (Nat.two_pow_pos 1012)]

/-- Of two quotients the smaller one is not rounded to the larger code. -/
theorem roundedCode_mono {a b c d : Nat} (hb : 0 < b) (hd : 0 < d) (le : a * d ≤ c * b) :
    roundedCode a b ≤ roundedCode c d := by
  have scaled : a * unitsPerOne * d ≤ c * unitsPerOne * b := by
    rw [Nat.mul_right_comm a, Nat.mul_right_comm c]
    exact Nat.mul_le_mul_right _ le
  have order : (a * unitsPerOne / b).log2 - 52 ≤ (c * unitsPerOne / d).log2 - 52 := by
    apply Nat.sub_le_sub_right
    rw [Nat.log2_eq_log_two, Nat.log2_eq_log_two]
    exact Nat.log_mono_right (div_le_div_of_cross hb hd scaled)
  have lower := le_div_pow_log2 (c * unitsPerOne / d)
  have upper := div_pow_log2_lt (a * unitsPerOne / b)
  simp only [roundedCode]
  generalize (a * unitsPerOne / b).log2 - 52 = p at order upper ⊢
  generalize (c * unitsPerOne / d).log2 - 52 = q at order lower ⊢
  rcases Nat.lt_or_eq_of_le order with lt | rfl
  · -- A larger exponent outweighs every fraction, also one that is rounded up to the next exponent.
    have small := roundQuotient_le (a * unitsPerOne) (b * Nat.pow 2 p)
    have large := div_le_roundQuotient (c * unitsPerOne) (d * Nat.pow 2 q)
    rw [← Nat.div_div_eq_div_mul] at small large
    omega
  · apply Nat.add_le_add_left
    have unit := Nat.two_pow_pos p
    apply roundQuotient_mono (Nat.mul_pos hb unit) (Nat.mul_pos hd unit)
    rw [← Nat.mul_assoc, ← Nat.mul_assoc]
    exact Nat.mul_le_mul_right _ scaled

private theorem exponent_ofCode (negative : Bool) {code : Nat} (finite : code < infinityCode) :
    (ofCode negative code).exponent.val = code / 4503599627370496 := by
  have high : code / 4503599627370496 < 2048 := by
    rw [infinityCode] at finite
    omega
  rw [ofCode, if_pos finite]
  exact Nat.mod_eq_of_lt high

private theorem fraction_ofCode (negative : Bool) {code : Nat} (finite : code < infinityCode) :
    (ofCode negative code).fraction.val = code % 4503599627370496 := by
  rw [ofCode, if_pos finite]
  rfl

theorem code_ofCode (negative : Bool) (code : Nat) :
    (ofCode negative code).code = min code infinityCode := by
  rcases Nat.lt_or_ge code infinityCode with finite | infinite
  · rw [Nat.min_eq_left (Nat.le_of_lt finite), Binary64.code, exponent_ofCode negative finite,
      fraction_ofCode negative finite]
    omega
  · rw [Nat.min_eq_right infinite, ofCode, if_neg (Nat.not_lt.mpr infinite)]
    cases negative <;> decide +kernel

@[simp] theorem negative_ofCode (negative : Bool) (code : Nat) :
    (ofCode negative code).negative = negative := by
  unfold ofCode
  split <;> rfl

@[simp] theorem isNaN_ofCode (negative : Bool) (code : Nat) :
    (ofCode negative code).isNaN = false := by
  rw [isNaN, code_ofCode, decide_eq_false_iff_not, Nat.not_lt]
  exact Nat.min_le_right _ _

variable {a b c d : Nat} {negative : Bool}

theorem code_ofRatio_mono (hb : 0 < b) (hd : 0 < d) (le : a * d ≤ c * b) :
    (ofRatio negative a b).code ≤ (ofRatio negative c d).code := by
  have rounded := roundedCode_mono hb hd le
  simp only [ofRatio_eq_ofCode, code_ofCode]
  omega

/-- What a quotient is rounded to does not depend on how the quotient is written. -/
theorem ofRatio_congr (hb : 0 < b) (hd : 0 < d) (same : a * d = c * b) :
    ofRatio negative a b = ofRatio negative c d := by
  have rounded : roundedCode a b = roundedCode c d :=
    Nat.le_antisymm (roundedCode_mono hb hd same.le) (roundedCode_mono hd hb same.ge)
  rw [ofRatio_eq_ofCode, ofRatio_eq_ofCode, rounded]

end Codes

section Units

variable {x y : Binary64}

private theorem significand_lt (x : Binary64) : x.significand < 9007199254740992 := by
  have fraction := x.fraction.isLt
  unfold significand
  split <;> omega

private theorem le_significand (normal : x.exponent.val ≠ 0) :
    4503599627370496 ≤ x.significand := by
  unfold significand
  rw [if_neg normal]
  exact Nat.le_add_right _ _

theorem units_pos (nonzero : x.code ≠ 0) : 0 < x.units := by
  apply Nat.mul_pos _ (Nat.two_pow_pos _)
  unfold code at nonzero
  unfold significand
  split <;> omega

private theorem units_lt_of_exponent_lt (lt : x.exponent.val < y.exponent.val) :
    x.units < y.units := by
  have normal : y.exponent.val ≠ 0 := by omega
  have large : 4503599627370496 * Nat.pow 2 y.shift ≤ y.units :=
    Nat.mul_le_mul_right _ (le_significand normal)
  apply Nat.lt_of_lt_of_le _ large
  by_cases subnormal : x.exponent.val = 0
  · have fraction := x.fraction.isLt
    have unit : Nat.pow 2 x.shift = 1 := by rw [shift, subnormal]
    rw [units, unit, significand, if_pos subnormal, Nat.mul_one]
    exact Nat.lt_of_lt_of_le fraction (Nat.le_mul_of_pos_right _ (Nat.two_pow_pos _))
  · have next : x.shift + 1 ≤ y.shift := by
      unfold shift
      omega
    calc x.units < 9007199254740992 * Nat.pow 2 x.shift :=
          Nat.mul_lt_mul_of_pos_right (significand_lt x) (Nat.two_pow_pos _)
      _ = 4503599627370496 * 2 ^ (x.shift + 1) := by
          show 9007199254740992 * 2 ^ x.shift = _
          omega
      _ ≤ 4503599627370496 * 2 ^ y.shift :=
          Nat.mul_le_mul_left _ (Nat.pow_le_pow_right (by decide) next)

/-- The larger code stands for the larger magnitude. -/
private theorem units_lt (lt : x.code < y.code) : x.units < y.units := by
  have fraction_x := x.fraction.isLt
  have fraction_y := y.fraction.isLt
  unfold code at lt
  rcases Nat.lt_trichotomy x.exponent.val y.exponent.val with less | same | more
  · exact units_lt_of_exponent_lt less
  · have parts : x.significand < y.significand := by
      unfold significand
      rw [same]
      split <;> omega
    rw [units, units, shift, shift, same]
    exact Nat.mul_lt_mul_of_pos_right parts (Nat.two_pow_pos _)
  · omega

private theorem units_congr (same : x.code = y.code) : x.units = y.units := by
  have fraction_x := x.fraction.isLt
  have fraction_y := y.fraction.isLt
  unfold code at same
  have exponent : x.exponent.val = y.exponent.val := by omega
  have fraction : x.fraction.val = y.fraction.val := by omega
  rw [units, units, significand, significand, shift, shift, exponent, fraction]

theorem units_mono (le : x.code ≤ y.code) : x.units ≤ y.units := by
  rcases Nat.lt_or_eq_of_le le with lt | same
  · exact (units_lt lt).le
  · exact (units_congr same).le

private theorem units_inj : x.units = y.units ↔ x.code = y.code := by
  refine ⟨fun same => ?_, units_congr⟩
  rcases Nat.lt_trichotomy x.code y.code with lt | eq | gt
  · exact absurd same (units_lt lt).ne
  · exact eq
  · exact absurd same (units_lt gt).ne'

/-- A code whose fraction and exponent are told apart stands for that many shifted units, also
where the fraction runs over into the next exponent. -/
private theorem units_ofCode {negative : Bool} {places m : Nat}
    (normal : places = 0 ∨ 4503599627370496 ≤ m) (small : m ≤ 9007199254740992)
    (finite : places * 4503599627370496 + m < infinityCode) :
    (ofCode negative (places * 4503599627370496 + m)).units = m * Nat.pow 2 places := by
  have exponent := exponent_ofCode negative finite
  have fraction := fraction_ofCode negative finite
  rcases Nat.lt_or_ge m 4503599627370496 with subnormal | large
  · obtain rfl : places = 0 := by omega
    have zero : (0 * 4503599627370496 + m) / 4503599627370496 = 0 := by omega
    have all : (0 * 4503599627370496 + m) % 4503599627370496 = m := by omega
    rw [units, significand, shift, exponent, fraction, zero, all, if_pos rfl]
  · rcases Nat.lt_or_eq_of_le small with within | rfl
    · have next : (places * 4503599627370496 + m) / 4503599627370496 = places + 1 := by omega
      have rest : 4503599627370496 + (places * 4503599627370496 + m) % 4503599627370496 = m := by
        omega
      rw [units, significand, shift, exponent, fraction, next, rest, if_neg (by omega),
        Nat.add_sub_cancel]
    · have next : (places * 4503599627370496 + 9007199254740992) / 4503599627370496 =
          places + 2 := by omega
      have rest : (places * 4503599627370496 + 9007199254740992) % 4503599627370496 = 0 := by omega
      rw [units, significand, shift, exponent, fraction, next, rest, if_neg (by omega)]
      show 4503599627370496 * 2 ^ (places + 1) = 9007199254740992 * 2 ^ places
      omega

/-- Whole numbers of at most fifty-three binary places are doubles. -/
theorem units_ofNat {n : Nat} (small : n < 9007199254740992) :
    (ofNat n).units = n * unitsPerOne := by
  rcases Nat.eq_zero_or_pos n with rfl | positive
  · rw [Nat.zero_mul]
    decide +kernel
  · have places : n.log2 < 53 := (Nat.log2_lt positive.ne').mpr small
    have lower := Nat.log2_self_le positive.ne'
    have upper := Nat.lt_log2_self (n := n)
    have scaled : n * unitsPerOne = n * 2 ^ (52 - n.log2) * 2 ^ (n.log2 + 1022) := by
      have exponents : 52 - n.log2 + (n.log2 + 1022) = 1074 := by omega
      rw [Nat.mul_assoc, ← Nat.pow_add, exponents, unitsPerOne_eq]
    have whole : n / 1 ≠ 0 := by
      rw [Nat.div_one]
      exact positive.ne'
    have log : (n * unitsPerOne / 1).log2 - 52 = n.log2 + 1022 := by
      rw [unitsPerOne_eq, log2_mul_two_pow_div whole, Nat.div_one]
      omega
    have least : 4503599627370496 ≤ n * 2 ^ (52 - n.log2) := by
      calc 4503599627370496 = 2 ^ n.log2 * 2 ^ (52 - n.log2) := by
            rw [← Nat.pow_add, Nat.add_sub_cancel' (by omega)]
        _ ≤ n * 2 ^ (52 - n.log2) := Nat.mul_le_mul_right _ lower
    have most : n * 2 ^ (52 - n.log2) ≤ 9007199254740992 := by
      calc n * 2 ^ (52 - n.log2) ≤ 2 ^ (n.log2 + 1) * 2 ^ (52 - n.log2) :=
            Nat.mul_le_mul_right _ upper.le
        _ = 9007199254740992 := by
            rw [← Nat.pow_add, show n.log2 + 1 + (52 - n.log2) = 53 by omega]
    have rounded : roundedCode n 1 =
        (n.log2 + 1022) * 4503599627370496 + n * 2 ^ (52 - n.log2) := by
      simp only [roundedCode, log]
      rw [scaled, Nat.one_mul]
      exact congrArg _ (roundQuotient_self _ (Nat.two_pow_pos _))
    rw [ofNat, ofRatio_eq_ofCode, rounded, units_ofCode (.inr least) most, scaled]
    · rfl
    · rw [infinityCode]
      omega

end Units

structure Unsigned (x : Binary64) : Prop where
  plus : x.negative = false
  finite : x.code < infinityCode

namespace Unsigned

variable {x y : Binary64} {a b c d : Nat}

theorem isNaN (hx : Unsigned x) : x.isNaN = false :=
  decide_eq_false (Nat.not_lt.mpr hx.finite.le)

theorem isInfinite (hx : Unsigned x) : x.isInfinite = false :=
  beq_eq_false_iff_ne.mpr hx.finite.ne

theorem orderKey (hx : Unsigned x) : x.orderKey = x.code := by
  rw [Binary64.orderKey, hx.plus]
  rfl

theorem less_iff (hx : Unsigned x) (hy : Unsigned y) : x.less y = true ↔ x.code < y.code := by
  simp [less, hx.isNaN, hy.isNaN, hx.orderKey, hy.orderKey]

theorem atMost_iff (hx : Unsigned x) (hy : Unsigned y) : x.atMost y = true ↔ x.code ≤ y.code := by
  simp [atMost, hx.isNaN, hy.isNaN, hx.orderKey, hy.orderKey]

/-- Without its sign a number equals one that has none if the codes are the same. -/
theorem abs_numEq_iff (hy : Unsigned y) : x.abs.numEq y = true ↔ x.code = y.code := by
  have code : x.abs.code = x.code := rfl
  have finite := hy.finite
  simp only [numEq, hy.orderKey, Binary64.isNaN, code, Bool.and_eq_true,
    Bool.not_eq_true', decide_eq_false_iff_not, beq_iff_eq]
  have key : x.abs.orderKey = x.code := rfl
  rw [key]
  omega

theorem mul_eq (hx : Unsigned x) (hy : Unsigned y) :
    x.mul y = ofRatio false (x.units * y.units) (unitsPerOne * unitsPerOne) := by
  simp [mul, hx.isNaN, hy.isNaN, hx.isInfinite, hy.isInfinite, hx.plus, hy.plus]

theorem div_eq (hx : Unsigned x) (hy : Unsigned y) (nonzero : y.code ≠ 0) :
    x.div y = ofRatio false x.units y.units := by
  simp [div, hx.isNaN, hy.isNaN, hx.isInfinite, hy.isInfinite, hx.plus, hy.plus, isZero, nonzero]

/-- A quotient that is not above a finite one is finite. -/
theorem ofRatio (hb : 0 < b) (hd : 0 < d) (le : a * d ≤ c * b)
    (bounded : Unsigned (ofRatio false c d)) : Unsigned (ofRatio false a b) where
  plus := negative_ofCode false _
  finite := Nat.lt_of_le_of_lt (code_ofRatio_mono hb hd le) bounded.finite

end Unsigned

section Counts

variable {m n : Nat}

theorem code_ofNat_mono (le : m ≤ n) : (ofNat m).code ≤ (ofNat n).code :=
  code_ofRatio_mono Nat.one_pos Nat.one_pos (Nat.mul_le_mul_right 1 le)

theorem code_ofNat_ne_zero (positive : 0 < n) : (ofNat n).code ≠ 0 := by
  have one : 0 < (ofNat 1).code := by decide +kernel
  have above : (ofNat 1).code ≤ (ofNat n).code := code_ofNat_mono positive
  omega

theorem Unsigned.ofNat (small : n < 18446744073709551616) : Unsigned (Binary64.ofNat n) where
  plus := negative_ofCode false (roundedCode n 1)
  finite := by
    have bounded : (Binary64.ofNat 18446744073709551616).code < infinityCode := by decide +kernel
    exact Nat.lt_of_le_of_lt (code_ofNat_mono small.le) bounded

/-- Below two to the fifty-third no whole number is taken for a larger one. -/
private theorem code_ofNat_lt (lt : m < n) (small : m + 1 < 9007199254740992) :
    (ofNat m).code < (ofNat n).code := by
  have apart : (ofNat m).code ≠ (ofNat (m + 1)).code := by
    rw [ne_eq, ← units_inj, units_ofNat (by omega), units_ofNat small]
    intro same
    have := Nat.eq_of_mul_eq_mul_right unitsPerOne_pos same
    omega
  calc (ofNat m).code < (ofNat (m + 1)).code :=
        Nat.lt_of_le_of_ne (code_ofNat_mono (Nat.le_succ m)) apart
    _ ≤ (ofNat n).code := code_ofNat_mono lt

theorem code_ofNat_inj (small : n + 1 < 9007199254740992) :
    (ofNat m).code = (ofNat n).code ↔ m = n := by
  refine ⟨fun same => ?_, fun same => by rw [same]⟩
  rcases Nat.lt_trichotomy m n with lt | eq | gt
  · exact absurd same (code_ofNat_lt lt (by omega)).ne
  · exact eq
  · exact absurd same (code_ofNat_lt gt small).ne'

/-- The code of a small whole number is that of the finite numbers of its magnitude. -/
theorem code_eq_code_ofNat_iff {x : Binary64} (small : n < 9007199254740992) :
    x.code = (ofNat n).code ↔ x.isFinite = true ∧ x.units = n * unitsPerOne := by
  have bounded : Unsigned (ofNat n) := .ofNat (by omega)
  rw [← units_inj, units_ofNat small]
  refine ⟨fun same => ⟨?_, same⟩, And.right⟩
  have code : x.code = (ofNat n).code := by rw [← units_inj, units_ofNat small, same]
  rw [isFinite, decide_eq_true_eq, code]
  exact bounded.finite

/-- Zero has two representations, of one code. -/
theorem numEq_zero_iff {x : Binary64} : x.numEq zero = true ↔ x.code = (ofNat 0).code := by
  have none : (ofNat 0).code = 0 := by decide +kernel
  have key : zero.orderKey = 0 := by decide +kernel
  have number : zero.isNaN = false := by decide +kernel
  have finite : 0 < infinityCode := by decide
  rw [none, numEq, number, key]
  simp only [isNaN, orderKey, Bool.and_eq_true, Bool.not_eq_true', decide_eq_false_iff_not,
    beq_iff_eq, and_true]
  split <;> omega

/-- The sign of a whole number does not bear on what its magnitude is rounded to. -/
theorem code_ofInt (i : Int) : (ofInt i).code = (ofNat i.natAbs).code := by
  rw [ofInt, ofNat, ofRatio_eq_ofCode, ofRatio_eq_ofCode, code_ofCode, code_ofCode]

/-- Counts below two to the fifty-third are divided as they are. -/
theorem div_ofNat (hm : m < 9007199254740992) (hn : n < 9007199254740992) (positive : 0 < n) :
    (ofNat m).div (ofNat n) = ofRatio false m n := by
  have dividend : Unsigned (ofNat m) := .ofNat (by omega)
  have divisor : Unsigned (ofNat n) := .ofNat (by omega)
  rw [dividend.div_eq divisor (code_ofNat_ne_zero positive), units_ofNat hm, units_ofNat hn]
  apply ofRatio_congr (Nat.mul_pos positive unitsPerOne_pos) positive
  rw [Nat.mul_assoc, Nat.mul_comm n]

end Counts
end MutationTesting.Binary64
