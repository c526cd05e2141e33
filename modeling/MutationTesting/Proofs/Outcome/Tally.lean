import Mathlib.Algebra.GroupWithZero.Nat
import Mathlib.Data.List.Induction
import MutationTesting.Proofs.Outcome.Order

/-! A tally says how often each kind of outcome occurs, and each part of it is within the whole that
it is a share of. -/
namespace MutationTesting

namespace Tally

variable {kinds : List OutcomeKind} {p : ScoringPolicy}

def merge (t u : Tally) : Tally where
  total := t.total + u.total
  killed := t.killed + u.killed
  escaped := t.escaped + u.escaped
  errored := t.errored + u.errored
  timedOut := t.timedOut + u.timedOut
  notCovered := t.notCovered + u.notCovered
  skipped := t.skipped + u.skipped

private theorem merge_add (t u : Tally) (kind : OutcomeKind) :
    t.merge (u.add kind) = (t.merge u).add kind := by
  cases kind <;> rfl

private theorem count_add (t : Tally) (kind k : OutcomeKind) :
    (t.add kind).count k = t.count k + if kind = k then 1 else 0 := by
  cases kind <;> cases k <;> rfl

/-- The counts of the six kinds, one after another. -/
private theorem sum_count_add (t : Tally) (kind : OutcomeKind) :
    (OutcomeKind.all.map (t.add kind).count).sum = (OutcomeKind.all.map t.count).sum + 1 := by
  cases kind <;> simp only [OutcomeKind.all, List.map, List.sum_cons, List.sum_nil, count, add] <;>
    omega

private theorem foldl_add (kinds : List OutcomeKind) (t u : Tally) :
    kinds.foldl add (t.merge u) = t.merge (kinds.foldl add u) := by
  induction kinds generalizing u with
  | nil => rfl
  | cons kind kinds ih => rw [List.foldl_cons, List.foldl_cons, ← merge_add, ih]

private theorem ofKinds_concat (kinds : List OutcomeKind) (kind : OutcomeKind) :
    ofKinds (kinds ++ [kind]) = (ofKinds kinds).add kind := by
  rw [ofKinds, ofKinds, List.foldl_append, List.foldl_cons, List.foldl_nil]

theorem ofKinds_append (kinds more : List OutcomeKind) :
    ofKinds (kinds ++ more) = (ofKinds kinds).merge (ofKinds more) := by
  rw [ofKinds, List.foldl_append]
  exact foldl_add more (ofKinds kinds) {}

theorem total_ofKinds (kinds : List OutcomeKind) : (ofKinds kinds).total = kinds.length := by
  induction kinds using List.reverseRecOn with
  | nil => rfl
  | append_singleton kinds kind ih =>
    rw [ofKinds_concat, List.length_append, List.length_singleton, ← ih]
    cases kind <;> rfl

theorem count_ofKinds (kinds : List OutcomeKind) (k : OutcomeKind) :
    (ofKinds kinds).count k = kinds.count k := by
  induction kinds using List.reverseRecOn with
  | nil => cases k <;> rfl
  | append_singleton kinds kind ih =>
    rw [ofKinds_concat, count_add, ih, List.count_append, List.count_singleton]
    simp only [beq_iff_eq]

theorem sum_count_ofKinds (kinds : List OutcomeKind) :
    (OutcomeKind.all.map (ofKinds kinds).count).sum = (ofKinds kinds).total := by
  rw [total_ofKinds]
  induction kinds using List.reverseRecOn with
  | nil => rfl
  | append_singleton kinds kind ih =>
    rw [ofKinds_concat, sum_count_add, ih, List.length_append, List.length_singleton]

theorem detected_le_executed (t : Tally) (p : ScoringPolicy) : t.detected p ≤ t.executed := by
  unfold detected executed
  split_ifs <;> omega

theorem executed_le_actionable (t : Tally) (p : ScoringPolicy) :
    t.executed ≤ t.actionable p := by
  unfold actionable coverable
  split_ifs <;> omega

theorem actionable_le_coverable (t : Tally) (p : ScoringPolicy) :
    t.actionable p ≤ t.coverable := by
  unfold actionable coverable
  split_ifs <;> omega

theorem coverable_le_total (kinds : List OutcomeKind) :
    (ofKinds kinds).coverable ≤ (ofKinds kinds).total := by
  rw [← sum_count_ofKinds]
  simp only [OutcomeKind.all, List.map, List.sum_cons, List.sum_nil, count, coverable, executed]
  omega

/-- An outcome in place of another one is counted once more, and the other one once less. -/
private theorem count_ofKinds_set {i : Nat} {old : OutcomeKind} (here : kinds[i]? = some old)
    (new k : OutcomeKind) :
    (ofKinds (kinds.set i new)).count k + (if old = k then 1 else 0) =
      (ofKinds kinds).count k + if new = k then 1 else 0 := by
  obtain ⟨within, rfl⟩ := List.getElem?_eq_some_iff.mp here
  have counted : (if kinds[i] = k then 1 else 0) ≤ kinds.count k := by
    split
    · next same => exact List.count_pos_iff.mpr (same ▸ List.getElem_mem within)
    · exact Nat.zero_le _
  rw [count_ofKinds, count_ofKinds, List.count_set within]
  simp only [beq_iff_eq]
  omega

/-- A mutant that is killed where it had escaped is one more that is detected, and it is tried and
counts as before. -/
theorem killed_for_escaped {i : Nat} (here : kinds[i]? = some .escaped) (p : ScoringPolicy) :
    (ofKinds (kinds.set i .killed)).detected p = (ofKinds kinds).detected p + 1 ∧
      (ofKinds (kinds.set i .killed)).executed = (ofKinds kinds).executed ∧
      (ofKinds (kinds.set i .killed)).actionable p = (ofKinds kinds).actionable p ∧
      (ofKinds (kinds.set i .killed)).coverable = (ofKinds kinds).coverable := by
  have killed := count_ofKinds_set here .killed .killed
  have escaped := count_ofKinds_set here .killed .escaped
  have errored := count_ofKinds_set here .killed .errored
  have timedOut := count_ofKinds_set here .killed .timedOut
  have notCovered := count_ofKinds_set here .killed .notCovered
  simp only [count, if_pos, reduceCtorEq, if_false] at killed escaped errored timedOut notCovered
  have tried : (ofKinds (kinds.set i .killed)).executed = (ofKinds kinds).executed := by
    unfold executed
    omega
  have all : (ofKinds (kinds.set i .killed)).coverable = (ofKinds kinds).coverable := by
    unfold coverable
    omega
  refine ⟨?_, tried, ?_, all⟩
  · unfold detected
    split_ifs <;> omega
  · rw [actionable, actionable, tried, all]

end Tally
end MutationTesting
