import MutationTesting.Operator.Chain
import MutationTesting.Proofs.Except
import MutationTesting.Proofs.Tree.Edit

/-! Removing calls from a chain is splicing receivers, one after the other, so what every splice
keeps the whole removal keeps. In particular a statement gets smaller. -/
namespace MutationTesting

namespace Node

variable {n left : Node} {p : Path}

theorem spliceReceiver_eq_ok (h : n.spliceReceiver p = .ok left) :
    ∃ target slot r, n.get? p = some target ∧ target.kind.receiverSlot? = some slot ∧
      target.children[slot]? = some r ∧ n.set? p r = some left := by
  obtain ⟨target, located, h⟩ := bind_eq_ok.mp h
  obtain ⟨r, hr, h⟩ := bind_eq_ok.mp h
  obtain ⟨slot, found, child⟩ := receiver_eq_ok hr
  exact ⟨target, slot, r, locate_eq_ok.mp located, found, child, withReplaced_eq_ok.mp h⟩

/-- A receiver has fewer nodes than the call it is put in place of. -/
private theorem size_lt_of_spliceReceiver (h : n.spliceReceiver p = .ok left) :
    left.size < n.size := by
  obtain ⟨target, slot, r, here, -, child, replaced⟩ := spliceReceiver_eq_ok h
  have receiver := size_le_sizeChildren (List.mem_of_getElem? child)
  have inside := sizeChildren_lt_size target
  have change := size_set? here replaced
  omega

end Node

namespace ChainRemoval

variable {r : ChainRemoval} {statement left left' : Node} {name : String} {p : Path}
  {P : Node → Prop}

theorem mem_eligibleCalls : p ∈ r.eligibleCalls statement ↔
    statement.kind = .exprStmt ∧ ∃ call, (p, call) ∈ statement.links ∧ r.isEligible call = true := by
  unfold eligibleCalls
  split
  · next kind => simp [kind]
  · next other => simp [other]

private theorem removeBinders_keeps {count : Nat}
    (keeps : ∀ {n n' q}, n.spliceReceiver q = .ok n' → P n → P n')
    (h : r.removeBinders name count left = .ok left') (start : P left) : P left' := by
  induction count generalizing left with
  | zero =>
    obtain rfl := Except.ok.inj h
    exact start
  | succ count ih =>
    rw [removeBinders] at h
    split at h
    · obtain ⟨next, spliced, h⟩ := bind_eq_ok.mp h
      exact ih h (keeps spliced start)
    · obtain rfl := Except.ok.inj h
      exact start

private theorem removeBindings_keeps (keeps : ∀ {n n' q}, n.spliceReceiver q = .ok n' → P n → P n')
    (h : r.removeBindings left name = .ok left') (start : P left) : P left' := by
  unfold removeBindings at h
  split at h
  · exact removeBinders_keeps keeps h start
  · exact removeBinders_keeps keeps h start

/-- The first splice takes out the call; all others keep what every splice keeps. -/
theorem exists_splice_of_removeAt (h : r.removeAt statement p = .ok left) :
    ∃ first, statement.spliceReceiver p = .ok first ∧
      ∀ P : Node → Prop, (∀ {n n' q}, n.spliceReceiver q = .ok n' → P n → P n') →
        P first → P left := by
  obtain ⟨removal, called, h⟩ := bind_eq_ok.mp h
  obtain ⟨call, -, called⟩ := bind_eq_ok.mp called
  obtain ⟨first, spliced, called⟩ := bind_eq_ok.mp called
  obtain rfl := Except.ok.inj called
  refine ⟨first, spliced, fun P keeps start => ?_⟩
  exact foldlM_keeps (P := P) (fun step kept => removeBindings_keeps keeps step kept) h start

theorem size_lt_of_removeAt (h : r.removeAt statement p = .ok left) :
    left.size < statement.size := by
  obtain ⟨first, spliced, keeps⟩ := exists_splice_of_removeAt h
  refine keeps (fun n => n.size < statement.size) ?_ (Node.size_lt_of_spliceReceiver spliced)
  intro n n' q next smaller
  exact Nat.lt_trans (Node.size_lt_of_spliceReceiver next) smaller

end ChainRemoval
end MutationTesting
