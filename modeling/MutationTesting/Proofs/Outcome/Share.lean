import MutationTesting.Proofs.Number.Rounding
import MutationTesting.Proofs.Outcome.Tally

/-! Shares are quotients of a part by a whole, so none is above one and none is taken of nothing. -/
namespace MutationTesting

namespace Binary64

variable {x y : Binary64} {m n : Nat}

/-- The quotient of a number by one that is not smaller is finite and not above one. -/
private theorem Unsigned.div_le_one (hx : Unsigned x) (hy : Unsigned y) (nonzero : y.code ≠ 0)
    (le : x.code ≤ y.code) : Unsigned (x.div y) ∧ (x.div y).code ≤ (Binary64.ofNat 1).code := by
  have positive := units_pos nonzero
  have cross : x.units * 1 ≤ 1 * y.units := by
    rw [Nat.mul_one, Nat.one_mul]
    exact units_mono le
  have one : Unsigned (Binary64.ofNat 1) := .ofNat (by decide)
  rw [hx.div_eq hy nonzero]
  exact ⟨.ofRatio positive Nat.one_pos cross one, code_ofRatio_mono positive Nat.one_pos cross⟩

/-- A whole number over a greater one is not above one, also where it is too large for a double: the
quotient of two infinities is no number, and that is not above anything. -/
private theorem one_less_div_ofNat (le : m ≤ n) (positive : 0 < n) :
    (ofNat 1).less ((ofNat m).div (ofNat n)) = false := by
  have codes := code_ofNat_mono le
  have nonzero := code_ofNat_ne_zero positive
  rcases Nat.lt_or_ge (ofNat n).code infinityCode with finite | infinite
  · have one : Unsigned (ofNat 1) := .ofNat (by decide)
    have hn : Unsigned (ofNat n) := ⟨negative_ofCode false (roundedCode n 1), finite⟩
    have hm : Unsigned (ofNat m) :=
      ⟨negative_ofCode false (roundedCode m 1), Nat.lt_of_le_of_lt codes finite⟩
    obtain ⟨share, bound⟩ := hm.div_le_one hn nonzero codes
    rw [Bool.eq_false_iff, ne_eq, one.less_iff share]
    exact Nat.not_lt.mpr bound
  · have number (k : Nat) : (ofNat k).isNaN = false := isNaN_ofCode false (roundedCode k 1)
    have hn : (ofNat n).isInfinite = true := by
      have most : (ofNat n).code ≤ infinityCode := Nat.not_lt.mp (of_decide_eq_false (number n))
      exact beq_iff_eq.mpr (Nat.le_antisymm most infinite)
    cases hm : (ofNat m).isInfinite with
    | true =>
      have undefined : (ofNat m).div (ofNat n) = nan := by simp [div, number, hm, hn]
      rw [undefined]
      decide +kernel
    | false =>
      have plus (k : Nat) : (ofNat k).negative = false := negative_ofCode false (roundedCode k 1)
      have vanishing : (ofNat m).div (ofNat n) = ofCode false 0 := by
        simp [div, number, plus, hm, hn]
      rw [vanishing]
      decide +kernel

end Binary64

open Binary64 (ofNat)

/-- A part of a whole as a double. The share of nothing is zero and nothing is divided by it, any
other share is the rounded quotient. No share is above one, and shares of what sixty-four bits can
count are numbers between zero and one. -/
structure IsShare (part whole : Nat) (share : Binary64) : Prop where
  le : part ≤ whole
  ofNothing : whole = 0 → share = .zero
  quotient : whole ≠ 0 → share = (ofNat part).div (ofNat whole)
  notAbove : (ofNat 1).less share = false
  within : whole < 18446744073709551616 →
    Binary64.zero.atMost share = true ∧ share.atMost (ofNat 1) = true

private theorem isShare_ratio {part whole : Nat} (le : part ≤ whole) :
    IsShare part whole (ratio part whole) := by
  rcases Nat.eq_zero_or_pos whole with rfl | positive
  · have nothing : ratio part 0 = .zero := rfl
    rw [nothing]
    exact ⟨le, fun _ => rfl, fun some => absurd rfl some, by decide +kernel,
      fun _ => by decide +kernel⟩
  · have quotient : ratio part whole = (ofNat part).div (ofNat whole) := if_neg positive.ne'
    rw [quotient]
    refine ⟨le, fun nothing => absurd nothing positive.ne', fun _ => rfl,
      Binary64.one_less_div_ofNat le positive, fun small => ?_⟩
    have zero : Binary64.Unsigned .zero := ⟨rfl, by decide +kernel⟩
    have one : Binary64.Unsigned (ofNat 1) := .ofNat (by decide)
    have dividend : Binary64.Unsigned (ofNat part) := .ofNat (by omega)
    obtain ⟨share, bound⟩ := dividend.div_le_one (.ofNat small)
      (Binary64.code_ofNat_ne_zero positive) (Binary64.code_ofNat_mono le)
    exact ⟨(zero.atMost_iff share).mpr (Nat.zero_le _), (share.atMost_iff one).mpr bound⟩

namespace Score

/-- The counts of a score are how often each kind occurs, so they do not depend on the order and
add up; the kinds make up the total. Every share is of a part in its whole, what is detected in what
was tried, in what counts, in all. An escaped mutant that is killed instead is one more detected
mutant of the same wholes. -/
theorem counts_bound_shares (kinds : List OutcomeKind) (p : ScoringPolicy) :
    ((ofKinds kinds p).tally = .ofKinds kinds ∧ (Tally.ofKinds kinds).total = kinds.length ∧
      ∀ k, (Tally.ofKinds kinds).count k = kinds.count k) ∧
    (∀ others, kinds.Perm others → ofKinds others p = ofKinds kinds p) ∧
    (∀ more, Tally.ofKinds (kinds ++ more) = (Tally.ofKinds kinds).merge (.ofKinds more)) ∧
    (OutcomeKind.all.map (Tally.ofKinds kinds).count).sum = (Tally.ofKinds kinds).total ∧
    ((Tally.ofKinds kinds).detected p ≤ (Tally.ofKinds kinds).executed ∧
      (Tally.ofKinds kinds).executed ≤ (Tally.ofKinds kinds).actionable p ∧
      (Tally.ofKinds kinds).actionable p ≤ (Tally.ofKinds kinds).total) ∧
    IsShare ((Tally.ofKinds kinds).detected p) ((Tally.ofKinds kinds).actionable p)
      (ofKinds kinds p).msi ∧
    IsShare ((Tally.ofKinds kinds).detected p) (Tally.ofKinds kinds).executed
      (ofKinds kinds p).coveredMsi ∧
    IsShare (Tally.ofKinds kinds).executed
      ((Tally.ofKinds kinds).executed + (Tally.ofKinds kinds).notCovered)
      (ofKinds kinds p).codeCoverage ∧
    ∀ i, kinds[i]? = some .escaped →
      (Tally.ofKinds (kinds.set i .killed)).detected p = (Tally.ofKinds kinds).detected p + 1 ∧
      (Tally.ofKinds (kinds.set i .killed)).executed = (Tally.ofKinds kinds).executed ∧
      (Tally.ofKinds (kinds.set i .killed)).actionable p = (Tally.ofKinds kinds).actionable p ∧
      (Tally.ofKinds (kinds.set i .killed)).coverable = (Tally.ofKinds kinds).coverable := by
  have detected := (Tally.ofKinds kinds).detected_le_executed p
  have executed := (Tally.ofKinds kinds).executed_le_actionable p
  have actionable := (Tally.ofKinds kinds).actionable_le_coverable p
  refine ⟨⟨rfl, Tally.total_ofKinds kinds, Tally.count_ofKinds kinds⟩, ?_,
    Tally.ofKinds_append kinds, Tally.sum_count_ofKinds kinds,
    ⟨detected, executed, actionable.trans (Tally.coverable_le_total kinds)⟩,
    isShare_ratio (detected.trans executed), isShare_ratio detected,
    isShare_ratio (Nat.le_add_right _ _), fun i escaped => Tally.killed_for_escaped escaped p⟩
  intro others same
  rw [ofKinds, ofKinds, Tally.ofKinds_eq_of_perm same]

namespace Sample

def kinds : List OutcomeKind := [.escaped, .killed, .timedOut, .notCovered, .skipped]

def policy : ScoringPolicy := ⟨true, false, true⟩

end Sample

theorem sample_counts_bound_shares :
    ofKinds Sample.kinds.reverse Sample.policy = ofKinds Sample.kinds Sample.policy ∧
      (ofKinds Sample.kinds Sample.policy).msi = (ofNat 2).div (ofNat 4) ∧
      Binary64.zero.atMost (ofKinds Sample.kinds Sample.policy).coveredMsi = true ∧
      (Tally.ofKinds (Sample.kinds.set 0 .killed)).detected Sample.policy = 2 + 1 ∧
      (Tally.ofKinds (Sample.kinds.set 0 .killed)).executed = 3 := by
  obtain ⟨-, order, -, -, -, msi, covered, -, killed⟩ :=
    counts_bound_shares Sample.kinds Sample.policy
  obtain ⟨detected, executed, -⟩ := killed 0 rfl
  exact ⟨order _ (List.reverse_perm _).symm, msi.quotient (by decide),
    (covered.within (by decide)).1, detected, executed⟩

end Score
end MutationTesting
