import MutationTesting.Proofs.Operator.Chain
import MutationTesting.Proofs.Operator.Proposal
import MutationTesting.Proofs.Operator.Removal
import MutationTesting.Proofs.Tree.Body
import MutationTesting.Proofs.Tree.Operand

/-! The replacements of operators have texts where the nodes had, need parentheses where the nodes
did, and read otherwise than the nodes. -/
namespace MutationTesting

open PrintStyle

variable {style : PrintStyle} {source : Option String} {depth : Nat}

namespace Node

private theorem checkShape_binary {n left right : Node} {op : BinaryOperator}
    (kind : n.kind = .binary op) (children : n.children = [left, right]) :
    n.checkShape = .ok () := by
  rw [checkShape, kind, children]
  rfl

end Node

/-- What the text of a replacement has to have in common with that of the node. -/
structure TextLike (style : PrintStyle) (source : Option String) (depth : Nat) (n r : Node) :
    Prop where
  loose : r.kind.bindsLoosely = n.kind.bindsLoosely
  bodies : n.BodiesEmpty → r.BodiesEmpty
  prints : n.Prints style source depth → r.Prints style source depth

namespace TextLike

/-- Another operator expression with the same two operands. -/
private theorem of_operator {n : Node} {op : BinaryOperator} {kind : Kind}
    (hn : n.kind = .binary op) (hk : kind = .assign ∨ ∃ op', kind = .binary op') :
    TextLike style source depth n { n with kind } := by
  have opens : kind.opensBody = false := by
    rcases hk with rfl | ⟨op', rfl⟩ <;> rfl
  have arity_eq : kind.arity? = n.kind.arity? := by
    rw [hn]
    rcases hk with rfl | ⟨op', rfl⟩ <;> rfl
  have slots_eq (count : Nat) : slots (style.template depth kind count) =
      slots (style.template depth n.kind count) := by
    rw [hn]
    rcases hk with rfl | ⟨op', rfl⟩ <;> rfl
  refine ⟨?_, ?_, ?_⟩
  · rw [hn]
    rcases hk with rfl | ⟨op', rfl⟩ <;> rfl
  · intro h
    exact .of_children (fun o => by rw [opens] at o; cases o) fun c member => h.mem member
  · unfold Node.Prints
    simp only [render_eq]
    have level : innerDepth kind depth = innerDepth n.kind depth := by
      rw [innerDepth, innerDepth, opens, hn]
      rfl
    rw [level]
    intro h
    obtain ⟨counted, texts⟩ := (layout_ok_iff (by rw [hn]; simp)).mp h
    refine (layout_ok_iff ?_).mpr ⟨?_, ?_⟩
    · rcases hk with rfl | ⟨op', rfl⟩ <;> simp
    · rw [arity_eq]
      exact counted
    · rw [slots_eq]
      exact texts

end TextLike

structure Shortened (whole left : Node) : Prop where
  kind : left.kind = .exprStmt
  bodies : whole.BodiesEmpty → left.BodiesEmpty

namespace Shortened

variable {whole left left' : Node}

theorem splice {p : Path} (s : Shortened whole left) (h : left.spliceReceiver p = .ok left') :
    Shortened whole left' := by
  obtain ⟨target, slot, r, here, found, first, replaced⟩ := Node.spliceReceiver_eq_ok h
  refine ⟨?_, fun bodies => ?_⟩
  · cases p with
    | nil =>
      -- A statement has no receiver, so the link is not the statement itself.
      obtain rfl := Option.some.inj here
      rw [s.kind] at found
      cases found
    | cons i p => exact (Node.kind_of_set?_cons replaced).trans s.kind
  · have old := s.bodies bodies
    exact old.set? ((old.get? here).child first) replaced

theorem removeAt {removal : ChainRemoval} {p : Path} (s : Shortened whole left)
    (h : removal.removeAt left p = .ok left') : Shortened whole left' := by
  obtain ⟨first, spliced, keeps⟩ := ChainRemoval.exists_splice_of_removeAt h
  exact keeps (Shortened whole) (fun next kept => kept.splice next) (s.splice spliced)

end Shortened

private theorem PrintedChild.length_le_wrap (operand loose : Bool) (t : String) :
    t.length ≤ (wrap operand loose t).length := by
  unfold wrap
  split
  · simp only [String.length_append]
    omega
  · exact Nat.le_refl _

namespace Operator

variable {o : Operator} {n r : Node} {s s' : String}

/-- Whatever an operator proposes for a node can be written where the node was. -/
theorem textLike_of_proposed (h : .ok r ∈ o.proposals n) : TextLike style source depth n r := by
  cases replaces_of_proposed h with
  | swapped kind => exact .of_operator kind (.inr ⟨_, rfl⟩)
  | assigned kind => exact .of_operator kind (.inl rfl)
  | shortened kind eligible removed =>
    have left := Shortened.removeAt ⟨kind, id⟩ removed
    refine ⟨by rw [left.kind, kind], left.bodies, ?_⟩
    rintro ⟨s, printed⟩
    obtain ⟨left', t, removed', remainder⟩ :=
      ChainRemoval.exists_remainder_of_removeAt eligible printed
    obtain rfl := Except.ok.inj (removed.symm.trans removed')
    exact ⟨t, remainder.prints⟩

/-- Whatever an operator proposes for a node reads otherwise than the node. -/
theorem text_ne_of_proposed (h : .ok r ∈ o.proposals n)
    (hn : style.render source depth n = .ok s) (hr : style.render source depth r = .ok s') :
    s ≠ s' := by
  cases replaces_of_proposed h with
  | @swapped op op' kind differ =>
    rw [render_eq, kind] at hn
    rw [render_eq] at hr
    obtain ⟨a, b, l, q, children, hl, hq, rfl⟩ :=
      (layout_pair_iff (Kind.pairs_of_sign? rfl)).mp hn
    obtain ⟨a', b', l', q', children', hl', hq', rfl⟩ :=
      (layout_pair_iff (Kind.pairs_of_sign? rfl)).mp hr
    obtain ⟨rfl, rfl⟩ : a = a' ∧ b = b' := by simpa using children.symm.trans children'
    obtain rfl := Except.ok.inj (hl.symm.trans hl')
    obtain rfl := Except.ok.inj (hq.symm.trans hq')
    simpa using differ
  | assigned kind =>
    -- The sign is shorter by a character, and operands lose their parentheses if they had any.
    rw [render_eq, kind] at hn
    rw [render_eq] at hr
    obtain ⟨a, b, l, q, children, hl, hq, rfl⟩ :=
      (layout_pair_iff (Kind.pairs_of_sign? rfl)).mp hn
    obtain ⟨a', b', l', q', children', hl', hq', rfl⟩ :=
      (layout_pair_iff (Kind.pairs_of_sign? rfl)).mp hr
    obtain ⟨rfl, rfl⟩ : a = a' ∧ b = b' := by simpa using children.symm.trans children'
    obtain rfl := Except.ok.inj (hl.symm.trans (PrintedChild.written_of_ok true hl'))
    obtain rfl := Except.ok.inj (hq.symm.trans (PrintedChild.written_of_ok true hq'))
    have left := PrintedChild.length_le_wrap true a.loose l'
    have right := PrintedChild.length_le_wrap true b.loose q'
    intro same
    have lengths := congrArg String.length same
    have longer : (String.ofList (' ' :: "==".toList ++ [' '])).length = 4 := rfl
    have shorter : (String.ofList ([' ', '='] ++ [' '])).length = 3 := rfl
    simp only [String.length_append, BinaryOperator.symbol] at lengths
    omega
  | shortened kind eligible removed =>
    obtain ⟨left, t, removed', remainder⟩ :=
      ChainRemoval.exists_remainder_of_removeAt eligible hn
    obtain rfl := Except.ok.inj (removed.symm.trans removed')
    obtain rfl := Except.ok.inj (hr.symm.trans remainder.prints)
    exact fun same => absurd remainder.shorter (same ▸ Nat.lt_irrefl _)

/-- Where an operator applies to a node that prints, it has no fault to report. -/
theorem exists_of_proposed (applies : o.applies n = true)
    (printed : style.render source depth n = .ok s) {proposal : Except OperatorError Node}
    (h : proposal ∈ o.proposals n) : ∃ r, proposal = .ok r := by
  cases o with
  | arithmetic swap =>
    change swap.applies n = true at applies
    change proposal ∈ swap.proposals n at h
    unfold ArithmeticSwap.applies at applies
    split at applies
    · next op left right kind children =>
      rw [Bool.and_eq_true, beq_iff_eq] at applies
      rw [applies.1] at kind
      have shape := Node.checkShape_binary kind children
      simp only [ArithmeticSwap.proposals, kind, if_true, shape, List.mem_singleton] at h
      exact ⟨_, h⟩
    · cases applies
  | assignmentEqual =>
    change AssignmentEqual.applies n = true at applies
    change proposal ∈ AssignmentEqual.proposals n at h
    unfold AssignmentEqual.applies at applies
    split at applies
    · next left right kind children =>
      have shape := Node.checkShape_binary kind children
      simp only [AssignmentEqual.proposals, kind, if_true, shape, List.mem_singleton] at h
      exact ⟨_, h⟩
    · cases applies
  | equality swap =>
    change swap.applies n = true at applies
    change proposal ∈ swap.proposals n at h
    rw [EqualitySwap.proposals, if_pos applies, List.mem_singleton] at h
    exact ⟨_, h⟩
  | chainRemoval removal =>
    change removal.applies n = true at applies
    change proposal ∈ removal.proposals n at h
    rw [ChainRemoval.applies, Bool.and_eq_true, Bool.and_eq_true, beq_iff_eq] at applies
    rw [ChainRemoval.proposals, if_pos applies.1.1, List.mem_map] at h
    obtain ⟨p, eligible, rfl⟩ := h
    obtain ⟨left, t, removed, -⟩ := ChainRemoval.exists_remainder_of_removeAt eligible printed
    exact ⟨left, by rw [removed]; rfl⟩

end Operator
end MutationTesting
