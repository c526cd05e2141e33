import MutationTesting.Operator.Basic
import MutationTesting.Proofs.Except

/-! What an operator may propose for a node. -/
namespace MutationTesting

namespace ArithmeticSwap

private theorem symbol_source_ne (swap : ArithmeticSwap) :
    swap.source.symbol ≠ swap.target.symbol := by
  cases swap <;> decide

private theorem of_proposed {swap : ArithmeticSwap} {n r : Node} (h : .ok r ∈ swap.proposals n) :
    n.kind = .binary swap.source ∧ r = { n with kind := .binary swap.target } := by
  unfold proposals at h
  split at h
  · next same =>
    split at h
    · exact ⟨same, Except.ok.inj (List.mem_singleton.mp h)⟩
    · cases List.mem_singleton.mp h
  · cases List.mem_singleton.mp h

end ArithmeticSwap

namespace EqualitySwap

private theorem symbol_source_ne (swap : EqualitySwap) :
    swap.source.symbol ≠ swap.target.symbol := by
  cases swap <;> decide

private theorem of_proposed {swap : EqualitySwap} {n r : Node} (h : .ok r ∈ swap.proposals n) :
    n.kind = .binary swap.source ∧ r = { n with kind := .binary swap.target } := by
  unfold proposals at h
  split at h
  · next applies =>
    rw [EqualitySwap.applies, Bool.and_eq_true, beq_iff_eq] at applies
    exact ⟨applies.1, Except.ok.inj (List.mem_singleton.mp h)⟩
  · cases List.mem_singleton.mp h

end EqualitySwap

private theorem AssignmentEqual.of_proposed {n r : Node} (h : .ok r ∈ AssignmentEqual.proposals n) :
    n.kind = .binary .equal ∧ r = { n with kind := .assign } := by
  unfold proposals at h
  split at h
  · next same =>
    split at h
    · exact ⟨same, Except.ok.inj (List.mem_singleton.mp h)⟩
    · cases List.mem_singleton.mp h
  · cases List.mem_singleton.mp h

namespace Operator

/-- The replacements there are: an expression with another operator between the same operands, an
assignment in place of a comparison, and a statement of whose chain a call was removed. -/
inductive Replaces (n : Node) : Node → Prop where
  | swapped {op op' : BinaryOperator} (kind : n.kind = .binary op)
      (differ : op.symbol ≠ op'.symbol) : Replaces n { n with kind := .binary op' }
  | assigned (kind : n.kind = .binary .equal) : Replaces n { n with kind := .assign }
  | shortened {removal : ChainRemoval} {p : Path} {r : Node} (kind : n.kind = .exprStmt)
      (eligible : p ∈ removal.eligibleCalls n) (removed : removal.removeAt n p = .ok r) :
      Replaces n r

theorem replaces_of_proposed {o : Operator} {n r : Node} (h : .ok r ∈ o.proposals n) :
    Replaces n r := by
  cases o with
  | arithmetic swap =>
    obtain ⟨kind, rfl⟩ := ArithmeticSwap.of_proposed h
    exact .swapped kind swap.symbol_source_ne
  | assignmentEqual =>
    obtain ⟨kind, rfl⟩ := AssignmentEqual.of_proposed h
    exact .assigned kind
  | equality swap =>
    obtain ⟨kind, rfl⟩ := EqualitySwap.of_proposed h
    exact .swapped kind swap.symbol_source_ne
  | chainRemoval removal =>
    change .ok r ∈ removal.proposals n at h
    unfold ChainRemoval.proposals at h
    split at h
    · next statement =>
      obtain ⟨p, eligible, removed⟩ := List.mem_map.mp h
      exact .shortened statement eligible (mapError_eq_ok.mp removed)
    · cases List.mem_singleton.mp h

/-- Every operator but the removal of calls works on operator expressions. -/
private theorem binary_of_proposed {o : Operator} {n r : Node} (other : o.name ≠ .chainCallRemoval)
    (h : .ok r ∈ o.proposals n) : ∃ op, n.kind = .binary op := by
  cases o with
  | arithmetic swap => exact ⟨_, (ArithmeticSwap.of_proposed h).1⟩
  | assignmentEqual => exact ⟨_, (AssignmentEqual.of_proposed h).1⟩
  | equality swap => exact ⟨_, (EqualitySwap.of_proposed h).1⟩
  | chainRemoval removal => exact absurd rfl other

/-- What such an operator proposes is the node with another kind. -/
theorem kind_of_proposed {o : Operator} {n r : Node} (other : o.name ≠ .chainCallRemoval)
    (h : .ok r ∈ o.proposals n) : r = { n with kind := r.kind } ∧ r.kind ≠ n.kind := by
  cases replaces_of_proposed h with
  | @swapped op op' kind differ =>
    refine ⟨rfl, fun same => differ ?_⟩
    rw [kind] at same
    rw [Kind.binary.inj same]
  | assigned kind =>
    refine ⟨rfl, ?_⟩
    rw [kind]
    exact nofun
  | shortened statement =>
    obtain ⟨op, kind⟩ := binary_of_proposed other h
    cases statement.symm.trans kind

end Operator
end MutationTesting
