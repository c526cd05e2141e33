import MutationTesting.Proofs.Outcome.Share

/-! A threshold of whole percent is missed by every share below it and by none above it.

A share of exactly that many hundredths is rounded twice before it is compared, and three of them
fall below the whole number they should be. The result is for numbers of mutants up to two to the
forty-sixth; shares of larger numbers come so close to each other that rounding makes them equal. -/
namespace MutationTesting.Score

open Binary64 (ofNat ofCode ofRatio roundedCode leadingCode unitsPerOne Unsigned)

section Percent

variable {x : Binary64} {a b c d : Nat}

private theorem percent_eq (hx : Unsigned x) :
    percent x = ofRatio false (x.units * 100) unitsPerOne := by
  have hundred : (ofNat 100).units = 100 * unitsPerOne := Binary64.units_ofNat (by decide)
  have product : percent x = _ := hx.mul_eq (.ofNat (by decide : 100 < 18446744073709551616))
  rw [product, hundred, ← Nat.mul_assoc]
  have unit := Binary64.unitsPerOne_pos
  apply Binary64.ofRatio_congr (Nat.mul_pos unit unit) unit
  exact Nat.mul_assoc _ _ _

/-- Shares are at most one, so their percentages are at most a hundred. -/
private theorem unsigned_percent (hx : Unsigned x) (le : x.code ≤ (ofNat 1).code) :
    Unsigned (percent x) := by
  have one : (ofNat 1).units = 1 * unitsPerOne := Binary64.units_ofNat (by decide)
  have hundred : Unsigned (ofNat 100) := .ofNat (by decide)
  have units := Binary64.units_mono le
  rw [one] at units
  rw [percent_eq hx]
  exact .ofRatio Binary64.unitsPerOne_pos Nat.one_pos (by omega) hundred

/-- The code of the percentage that a quotient of counts is rounded to. -/
def percentCode (part whole : Nat) : Nat :=
  leadingCode ((ofCode false (leadingCode part whole)).units * 100) unitsPerOne

private theorem percentCode_mono (hb : 0 < b) (hd : 0 < d) (le : a * d ≤ c * b) :
    percentCode a b ≤ percentCode c d := by
  have unit := Binary64.unitsPerOne_pos
  have shares := Binary64.roundedCode_mono hb hd le
  rw [percentCode, percentCode, ← Binary64.roundedCode_eq_leadingCode hb,
    ← Binary64.roundedCode_eq_leadingCode hd, ← Binary64.roundedCode_eq_leadingCode unit,
    ← Binary64.roundedCode_eq_leadingCode unit]
  apply Binary64.roundedCode_mono unit unit
  apply Nat.mul_le_mul_right
  apply Nat.mul_le_mul_right
  apply Binary64.units_mono
  rw [Binary64.code_ofCode, Binary64.code_ofCode]
  omega

/-- Percentages of shares are finite and compare as their codes do. -/
private theorem percent_less_iff {part whole r : Nat} (le : part ≤ whole) (positive : 0 < whole)
    (small : whole < 9007199254740992) (hr : r ≤ 100) :
    (percent (ratio part whole)).less (ofNat r) = true ↔
      percentCode part whole < leadingCode r 1 := by
  have share : ratio part whole = ofRatio false part whole := by
    rw [ratio, if_neg positive.ne', Binary64.div_ofNat (Nat.lt_of_le_of_lt le small) small positive]
  have one : Unsigned (ofNat 1) := .ofNat (by decide)
  have cross : part * 1 ≤ 1 * whole := by omega
  have bound : (ofRatio false part whole).code ≤ (ofNat 1).code :=
    Binary64.code_ofRatio_mono positive Nat.one_pos cross
  have hx : Unsigned (ofRatio false part whole) := .ofRatio positive Nat.one_pos cross one
  have hr : Unsigned (ofNat r) := .ofNat (by omega)
  have hp := unsigned_percent hx bound
  have finite := hp.finite
  have finite_r := hr.finite
  rw [share, hp.less_iff hr]
  rw [percent_eq hx, Binary64.ofRatio_eq_ofCode, Binary64.ofRatio_eq_ofCode,
    Binary64.code_ofCode, Binary64.roundedCode_eq_leadingCode Binary64.unitsPerOne_pos,
    Binary64.roundedCode_eq_leadingCode positive] at finite ⊢
  rw [ofNat, Binary64.ofRatio_eq_ofCode, Binary64.code_ofCode,
    Binary64.roundedCode_eq_leadingCode Nat.one_pos] at finite_r ⊢
  rw [percentCode]
  omega

end Percent

/-- The thresholds that a share of exactly that many hundredths falls below. -/
def roundedBelow : List Nat := [29, 57, 58]

/-- Of so many mutants, no two shares are taken for each other. -/
def mostCounted : Nat := 70368744177664

/-- The percentages of the shares next to a threshold, for the largest number of mutants, and of the
share at the threshold. -/
private theorem percent_near : ∀ r < 101, 0 < r →
    percentCode (r * mostCounted - 1) (100 * mostCounted) < leadingCode r 1 ∧
    (percentCode r 100 < leadingCode r 1 ↔ r ∈ roundedBelow) ∧
    leadingCode r 1 ≤ percentCode (r * mostCounted + 1) (100 * mostCounted) := by
  decide +kernel

private theorem percentCode_lt_iff {part whole r : Nat} (positive : 0 < whole)
    (small : whole ≤ mostCounted) (hr : r ≤ 100) : percentCode part whole < leadingCode r 1 ↔
      part * 100 < r * whole ∨ (part * 100 = r * whole ∧ r ∈ roundedBelow) := by
  rcases Nat.eq_zero_or_pos r with rfl | some
  · have zero : leadingCode 0 1 = 0 := by decide +kernel
    simp [zero, roundedBelow]
  · obtain ⟨below, reached, above⟩ := percent_near r (by omega) some
    have most : 0 < 100 * mostCounted := by decide
    have parts : part * (100 * mostCounted) = part * 100 * mostCounted :=
      (Nat.mul_assoc _ _ _).symm
    have wholes : r * mostCounted * whole = r * whole * mostCounted := Nat.mul_right_comm _ _ _
    rcases Nat.lt_trichotomy (part * 100) (r * whole) with lt | same | gt
    · -- One mutant less makes the more of a difference the fewer there are.
      have step : (part * 100 + 1) * mostCounted ≤ r * whole * mostCounted :=
        Nat.mul_le_mul_right _ lt
      rw [Nat.add_mul] at step
      have cross : part * (100 * mostCounted) ≤ (r * mostCounted - 1) * whole := by
        rw [Nat.sub_mul, parts, wholes]
        omega
      have missed := Nat.lt_of_le_of_lt (percentCode_mono positive most cross) below
      exact iff_of_true missed (.inl lt)
    · have hundredths : percentCode part whole = percentCode r 100 :=
        Nat.le_antisymm (percentCode_mono positive (by decide) same.le)
          (percentCode_mono (by decide) positive same.ge)
      rw [hundredths, reached]
      simp [same]
    · have step : (r * whole + 1) * mostCounted ≤ part * 100 * mostCounted :=
        Nat.mul_le_mul_right _ gt
      rw [Nat.add_mul] at step
      have cross : (r * mostCounted + 1) * whole ≤ part * (100 * mostCounted) := by
        rw [Nat.add_mul, parts, wholes]
        omega
      have passed := Nat.le_trans above (percentCode_mono most positive cross)
      exact iff_of_false (Nat.not_lt.mpr passed) (by omega)

section Check

variable {score : Score} {s : ScoringSettings} {required : Binary64}

/-- Where only the score has a minimum, only the score is compared. -/
private theorem check_minMsi (counted : score.tally.total ≠ 0) (least : s.minMsi = some required)
    (only : s.minCoveredMsi = none) : score.check s =
      if (percent score.msi).less required then .error (.msi required (percent score.msi))
      else .ok () := by
  simp only [check, counted, false_and, if_false, least, only]
  split <;> rfl

private theorem check_minCoveredMsi (counted : score.tally.total ≠ 0)
    (least : s.minCoveredMsi = some required) (only : s.minMsi = none) : score.check s =
      if (percent score.coveredMsi).less required then
        .error (.coveredMsi required (percent score.coveredMsi))
      else .ok () := by
  simp only [check, counted, false_and, if_false, least, only]
  split <;> rfl

private theorem exists_error_iff {missed : Bool} {e : ThresholdError} :
    (∃ e', (if missed then .error e else .ok () : Except ThresholdError Unit) = .error e') ↔
      missed = true := by
  cases missed <;> simp

end Check

/-- A check of one whole percentage fails for what is below it, and for a share of exactly that many
hundredths if it is one of the three that are rounded below themselves. -/
theorem check_fails_iff (kinds : List OutcomeKind) (p : ScoringPolicy) (s : ScoringSettings)
    {r : Nat} (hr : r ≤ 100) :
    (s.minMsi = some (ofNat r) → s.minCoveredMsi = none →
      0 < (Tally.ofKinds kinds).actionable p → (Tally.ofKinds kinds).actionable p ≤ mostCounted →
      ((∃ e, (ofKinds kinds p).check s = .error e) ↔
        (Tally.ofKinds kinds).detected p * 100 < r * (Tally.ofKinds kinds).actionable p ∨
        (Tally.ofKinds kinds).detected p * 100 = r * (Tally.ofKinds kinds).actionable p ∧
          r ∈ roundedBelow)) ∧
    (s.minCoveredMsi = some (ofNat r) → s.minMsi = none →
      0 < (Tally.ofKinds kinds).executed → (Tally.ofKinds kinds).executed ≤ mostCounted →
      ((∃ e, (ofKinds kinds p).check s = .error e) ↔
        (Tally.ofKinds kinds).detected p * 100 < r * (Tally.ofKinds kinds).executed ∨
        (Tally.ofKinds kinds).detected p * 100 = r * (Tally.ofKinds kinds).executed ∧
          r ∈ roundedBelow)) := by
  have detected := (Tally.ofKinds kinds).detected_le_executed p
  have executed := (Tally.ofKinds kinds).executed_le_actionable p
  have coverable := (Tally.ofKinds kinds).actionable_le_coverable p
  have total := Tally.coverable_le_total kinds
  have narrow : mostCounted < 9007199254740992 := by decide
  refine ⟨fun least only some small => ?_, fun least only some small => ?_⟩
  · have counted : (ofKinds kinds p).tally.total ≠ 0 := by
      show (Tally.ofKinds kinds).total ≠ 0
      omega
    rw [check_minMsi counted least only, exists_error_iff, ← percentCode_lt_iff some small hr]
    exact percent_less_iff (detected.trans executed) some (small.trans_lt narrow) hr
  · have counted : (ofKinds kinds p).tally.total ≠ 0 := by
      show (Tally.ofKinds kinds).total ≠ 0
      omega
    rw [check_minCoveredMsi counted least only, exists_error_iff,
      ← percentCode_lt_iff some small hr]
    exact percent_less_iff detected some (small.trans_lt narrow) hr

namespace Sample

def fifty : List OutcomeKind := List.replicate 29 .killed ++ List.replicate 21 .escaped

def minimum (r : Nat) : ScoringSettings := { minMsi := some (ofNat r) }

def coveredMinimum (r : Nat) : ScoringSettings := { minCoveredMsi := some (ofNat r) }

end Sample

theorem sample_check_fails :
    (∃ e, (ofKinds Sample.fifty (Sample.minimum 59).policy).check (Sample.minimum 59) = .error e) ∧
      ¬ ∃ e, (ofKinds Sample.fifty (Sample.coveredMinimum 57).policy).check
        (Sample.coveredMinimum 57) = .error e := by
  have above := check_fails_iff Sample.fifty (Sample.minimum 59).policy (Sample.minimum 59)
    (show 59 ≤ 100 by decide)
  have below := check_fails_iff Sample.fifty (Sample.coveredMinimum 57).policy
    (Sample.coveredMinimum 57) (show 57 ≤ 100 by decide)
  constructor
  · exact (above.1 rfl rfl (by decide) (by decide)).mpr (.inl (by decide))
  · rw [below.2 rfl rfl (by decide) (by decide)]
    decide

/-- A run that reaches its minimum of fifty-eight percent is said to be below it. -/
theorem check_fails_at_minimum :
    (Tally.ofKinds Sample.fifty).detected (Sample.minimum 58).policy * 100 =
      58 * (Tally.ofKinds Sample.fifty).actionable (Sample.minimum 58).policy ∧
    ∃ e, (ofKinds Sample.fifty (Sample.minimum 58).policy).check (Sample.minimum 58) = .error e ∧
      e.message = "MSI 58.00% is below the required 58.00%" := by
  refine ⟨by decide,
    .msi (ofNat 58) (percent (ofKinds Sample.fifty (Sample.minimum 58).policy).msi), ?_, ?_⟩
  · decide +kernel
  · decide +kernel

end MutationTesting.Score
