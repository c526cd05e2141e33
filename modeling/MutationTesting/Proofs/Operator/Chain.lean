import MutationTesting.Proofs.Operator.Removal
import MutationTesting.Proofs.Tree.Front

/-! Shortening a chain. A call can be taken out of any statement that prints, and what is left
prints to a shorter text. -/
namespace MutationTesting

open PrintStyle

variable {style : PrintStyle} {source : Option String} {depth : Nat}

structure Remainder (style : PrintStyle) (source : Option String) (depth : Nat) (s : String)
    (left : Node) (t : String) : Prop where
  kind : left.kind = .exprStmt
  prints : style.render source depth left = .ok t
  shorter : t.length < s.length

/-- A call that prints has a receiver, and the call has something in its text beside it. -/
private theorem exists_receiver {call : Node} {t : String} (method : call.methodName?.isSome = true)
    (h : style.render source depth call = .ok t) :
    ∃ r t', call.receiver = .ok r ∧ style.render source depth r = .ok t' ∧
      t'.length < t.length := by
  obtain ⟨name, kind⟩ := Node.exists_kind_of_methodName? method
  have slot : call.kind.receiverSlot? = some 0 := by rw [kind]; rfl
  obtain ⟨r, cs, rest, t', u, children, front, ht', hu, rfl, -⟩ :=
    render_front (Kind.fronts_receiver slot).2 h
  refine ⟨r, t', ?_, ht', ?_⟩
  · simp [Node.receiver, slot, Node.child, children]
  · -- The arguments stand in parentheses, even if there are none.
    rw [kind] at front hu
    obtain ⟨-, rfl⟩ := List.cons.inj front
    rw [argumentPieces, List.cons_append, writeAll, writeAll] at hu
    obtain ⟨_, -, hu⟩ := bind_eq_ok.mp hu
    obtain ⟨_, hw, hu⟩ := bind_eq_ok.mp hu
    obtain ⟨_, paren, hw⟩ := bind_eq_ok.mp hw
    obtain ⟨_, -, hw⟩ := bind_eq_ok.mp hw
    obtain rfl := Except.ok.inj hu
    obtain rfl := Except.ok.inj hw
    obtain rfl := Except.ok.inj paren
    simp only [String.length_append]
    have one : "(".length = 1 := rfl
    omega

private theorem exists_remainder_of_splice {statement call : Node} {p : Path} {s : String}
    (kind : statement.kind = .exprStmt) (linked : (p, call) ∈ statement.links)
    (method : call.methodName?.isSome = true)
    (h : style.render source depth statement = .ok s) :
    ∃ left t, statement.spliceReceiver p = .ok left ∧
      Remainder style source depth s left t := by
  obtain ⟨t, u, below, leads⟩ := exists_leads_of_mem_links kind linked h
  obtain ⟨r, t', hr, ht', shorter⟩ := exists_receiver method leads.own
  obtain ⟨left, replaced, hleft⟩ := leads.replaced r t' ht'
  refine ⟨left, t' ++ u, ?_, ?_, hleft, ?_⟩
  · rw [Node.spliceReceiver, Node.locate_eq_ok.mpr leads.here, ok_bind, hr, ok_bind,
      Node.withReplaced_eq_ok.mpr replaced]
  · obtain ⟨i, q, rfl⟩ := List.exists_cons_of_ne_nil below
    exact (Node.kind_of_set?_cons replaced).trans kind
  · obtain rfl : s = t ++ u := Except.ok.inj (h.symm.trans leads.whole)
    simp only [String.length_append]
    omega

namespace ChainRemoval

variable {r : ChainRemoval} {statement left : Node} {s t name : String}

private theorem linked_of_findBinder? {p : Path} (h : r.findBinder? statement name = some p) :
    ∃ call, (p, call) ∈ statement.links ∧ call.methodName?.isSome = true := by
  obtain ⟨⟨_, call⟩, found, rfl⟩ := Option.map_eq_some_iff.mp h
  refine ⟨call, List.mem_of_find?_eq_some found, ?_⟩
  have bound := List.find?_some found
  rw [binds, Bool.and_eq_true] at bound
  exact Option.isSome_of_any bound.1

private theorem linked_of_mem_eligibleCalls {p : Path} (h : p ∈ r.eligibleCalls statement) :
    statement.kind = .exprStmt ∧
      ∃ call, (p, call) ∈ statement.links ∧ call.methodName?.isSome = true := by
  obtain ⟨kind, call, linked, eligible⟩ := mem_eligibleCalls.mp h
  exact ⟨kind, call, linked, Option.isSome_of_any eligible⟩

private theorem exists_remainder_of_removeBinders (count : Nat)
    (before : Remainder style source depth s left t) :
    ∃ left' t', r.removeBinders name count left = .ok left' ∧
      Remainder style source depth s left' t' := by
  induction count generalizing left t with
  | zero => exact ⟨left, t, rfl, before⟩
  | succ count ih =>
    rw [removeBinders]
    split
    · next p found =>
      obtain ⟨call, linked, method⟩ := linked_of_findBinder? found
      obtain ⟨next, u, spliced, after⟩ :=
        exists_remainder_of_splice before.kind linked method before.prints
      rw [spliced, ok_bind]
      exact ih ⟨after.kind, after.prints, Nat.lt_trans after.shorter before.shorter⟩
    · exact ⟨left, t, rfl, before⟩

private theorem exists_remainder_of_removeBindings (name : String)
    (before : Remainder style source depth s left t) :
    ∃ left' t', r.removeBindings left name = .ok left' ∧
      Remainder style source depth s left' t' := by
  unfold removeBindings
  split
  · exact exists_remainder_of_removeBinders _ before
  · exact exists_remainder_of_removeBinders _ before

/-- A call that may go can be taken out of a statement that prints, with its bindings. -/
theorem exists_remainder_of_removeAt {p : Path} (eligible : p ∈ r.eligibleCalls statement)
    (h : style.render source depth statement = .ok s) :
    ∃ left t, r.removeAt statement p = .ok left ∧ Remainder style source depth s left t := by
  obtain ⟨kind, call, linked, method⟩ := linked_of_mem_eligibleCalls eligible
  obtain ⟨t, u, -, leads⟩ := exists_leads_of_mem_links kind linked h
  obtain ⟨left, t', spliced, remainder⟩ := exists_remainder_of_splice kind linked method h
  have called : r.removeCall statement p = .ok ⟨left, r.introduces call⟩ := by
    rw [removeCall, Node.locate_eq_ok.mpr leads.here, ok_bind, spliced, ok_bind]
    rfl
  have keeps (left : Node) (name : String) : (∃ t, Remainder style source depth s left t) →
      ∃ left', r.removeBindings left name = .ok left' ∧
        ∃ t, Remainder style source depth s left' t := by
    rintro ⟨t, before⟩
    obtain ⟨left', t', removed, after⟩ := exists_remainder_of_removeBindings name before
    exact ⟨left', removed, t', after⟩
  obtain ⟨left', removed, t'', after⟩ := foldlM_succeeds (r.introduces call) keeps ⟨t', remainder⟩
  exact ⟨left', t'', by rw [removeAt, called, ok_bind]; exact removed, after⟩

end ChainRemoval
end MutationTesting
