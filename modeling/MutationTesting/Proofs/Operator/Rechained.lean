import MutationTesting.Proofs.Operator.Spine

/-! Changing the chain of a statement. The links of a chain tell the chain, and to splice a receiver
is to take one link out of it. -/
namespace MutationTesting.Node

variable {n n' m r statement left : Node} {p : Path} {as bs : List Node}

/-- A link keeps all but the receiver. -/
private theorem link_set_receiver (h : n.receiver = .ok r) (r' : Node) :
    link { n with children := n.children.set 0 r' } = n.link ∧
      receiver { n with children := n.children.set 0 r' } = .ok r' := by
  obtain ⟨k, cs, s, a, rfl, slot⟩ := eq_of_receiver h
  constructor
  · simp [link, slot]
  · exact receiver_eq_ok_iff.mpr ⟨slot, rfl⟩

/-- What takes the place of a node of the chain brings its own receivers with it. -/
private theorem set?_of_receivers (h : n.receivers = as ++ m :: bs) (r : Node) :
    ∃ n', n.set? (List.replicate as.length 0) r = some n' ∧
      n'.receivers.map link = as.map link ++ r.receivers.map link := by
  induction as generalizing n with
  | nil => exact ⟨r, rfl, rfl⟩
  | cons a as ih =>
    obtain ⟨rfl, rest | ⟨c, hc, rest⟩⟩ := receivers_eq_cons h
    · simp at rest
    · obtain ⟨c', replaced, inner⟩ := ih rest.symm
      obtain ⟨same, received⟩ := link_set_receiver hc c'
      refine ⟨{ a with children := a.children.set 0 c' }, ?_, ?_⟩
      · rw [List.length_cons, List.replicate_succ, set?, (receiver_eq_ok_iff.mp hc).2]
        dsimp only
        rw [replaced, Option.map_some]
      · rw [receivers_of_receiver received, List.map_cons, same, inner, List.map_cons,
          List.cons_append]

private theorem children_of_receiver (h : n.receiver = .ok r) : n.children = r ::
    n.link.beside := by
  obtain ⟨k, cs, s, a, rfl, slot⟩ := eq_of_receiver h
  simp [link, slot]

private theorem children_of_last (h : n.IsLast) : n.children = n.link.beside := by
  obtain ⟨k, cs, s, a⟩ := n
  cases cs with
  | nil => cases slot : k.receiverSlot? <;> simp [link, slot]
  | cons c cs => simp [link, h.receiverSlot?]

private theorem eq_of_link (same : n.link = n'.link) (children : n.children = n'.children) :
    n = n' := by
  obtain ⟨k, cs, s, a⟩ := n
  obtain ⟨k', cs', s', a'⟩ := n'
  obtain ⟨rfl, -, rfl, rfl⟩ := Link.mk.inj same
  obtain rfl : cs = cs' := children
  rfl

private theorem receivers_ne_nil (n : Node) : n.receivers ≠ [] := by
  obtain ⟨k, cs, s, a⟩ := n
  cases cs <;> simp [receivers]

/-- The links of a node and its receivers tell the node. -/
private theorem eq_of_map_link (h : n.receivers.map link = n'.receivers.map link) : n = n' := by
  induction n using receiver_induction generalizing n' with
  | last n last =>
    rw [receivers_of_last last] at h
    rcases n'.isLast_or_receiver with last' | ⟨r', received'⟩
    · rw [receivers_of_last last'] at h
      have same := (List.cons.inj h).1
      refine eq_of_link same ?_
      rw [children_of_last last, same, ← children_of_last last']
    · rw [receivers_of_receiver received', List.map_cons] at h
      exact absurd (List.map_eq_nil_iff.mp (List.cons.inj h).2.symm) (receivers_ne_nil r')
  | outer n r received ih =>
    rw [receivers_of_receiver received, List.map_cons] at h
    rcases n'.isLast_or_receiver with last' | ⟨r', received'⟩
    · rw [receivers_of_last last'] at h
      exact absurd (List.map_eq_nil_iff.mp (List.cons.inj h).2) (receivers_ne_nil r)
    · rw [receivers_of_receiver received', List.map_cons] at h
      obtain ⟨same, deeper⟩ := List.cons.inj h
      refine eq_of_link same ?_
      rw [children_of_receiver received, same, ih deeper, ← children_of_receiver received']

def withExpression (statement expression : Node) : Node :=
  { statement with children := statement.children.set 0 expression }

/-- A statement whose chain has other links, and which is otherwise like the one before. -/
structure Rechained (statement left : Node) (links : List Link) : Prop where
  around : ∃ e, left = statement.withExpression e
  spine : left.spine = links

theorem Rechained.refl (statement : Node) : Rechained statement statement statement.spine := by
  refine ⟨?_, rfl⟩
  obtain ⟨k, cs, s, a⟩ := statement
  cases cs with
  | nil => exact ⟨.leaf k, rfl⟩
  | cons c cs => exact ⟨c, rfl⟩

theorem Rechained.trans {next : Node} {links links' : List Link}
    (first : Rechained statement next links) (second : Rechained next left links') :
    Rechained statement left links' := by
  obtain ⟨e, rfl⟩ := first.around
  obtain ⟨e', rfl⟩ := second.around
  exact ⟨⟨e', by simp [withExpression]⟩, second.spine⟩

theorem Rechained.kind {links : List Link} (h : Rechained statement left links) :
    left.kind = statement.kind := by
  obtain ⟨e, rfl⟩ := h.around
  rfl

/-- There is only one such statement. -/
theorem Rechained.unique {left' : Node} {links : List Link} (h : Rechained statement left links)
    (h' : Rechained statement left' links) : left = left' := by
  obtain ⟨e, rfl⟩ := h.around
  obtain ⟨e', rfl⟩ := h'.around
  have same := h.spine.trans h'.spine.symm
  unfold Node.spine chain withExpression at same
  unfold withExpression
  cases children : statement.children with
  | nil => rfl
  | cons c cs =>
    rw [children] at same
    rw [eq_of_map_link same]

/-- Splicing the receiver of a node of the chain takes its link out. -/
theorem rechained_spliceReceiver {xs ys : List (Path × Node)}
    (split : statement.links = xs ++ (p, m) :: ys) (received : m.receiver = .ok r) :
    ∃ left, statement.spliceReceiver p = .ok left ∧
      Rechained statement left (statement.spine.eraseIdx xs.length) := by
  have found := get?_of_mem_links (split ▸ List.mem_append_right xs List.mem_cons_self)
  obtain ⟨c, cs, children, nodes⟩ := exists_of_chain (chain_of_links split)
  obtain ⟨-, below⟩ := get?_of_receivers nodes
  obtain ⟨-, inner⟩ := List.cons.inj ((receivers_of_receiver received).symm.trans below)
  obtain ⟨c', replaced, links⟩ := set?_of_receivers nodes r
  rw [List.length_map] at replaced
  have first : statement.children[0]? = some c := by rw [children]; rfl
  refine ⟨statement.withExpression c', ?_, ⟨c', rfl⟩, ?_⟩
  · obtain rfl := path_of_links split
    rw [spliceReceiver, locate_eq_ok.mpr found, ok_bind, received, ok_bind, withReplaced_eq_ok,
      List.replicate_succ, set?, first]
    dsimp only
    rw [replaced, Option.map_some]
    rfl
  · rw [eraseIdx_of_links split, Node.spine, chain, withExpression, children]
    dsimp only [List.set_cons_zero]
    rw [links, inner, List.map_map, List.map_map]
    rfl

end MutationTesting.Node
