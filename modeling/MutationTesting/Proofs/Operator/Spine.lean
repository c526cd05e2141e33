import MutationTesting.Proofs.Operator.Removal

/-! The chain of a statement as a list of links, each of them a node without its receiver. The walk
along the chain meets these links in order, each one step further down. -/
namespace MutationTesting

/-- A node of a chain without its receiver. -/
structure Link where
  kind : Kind
  /-- The children beside the receiver. Of a call these are the arguments. -/
  beside : List Node
  span : Option Span
  attributes : Attributes
deriving DecidableEq

namespace Node

def link (n : Node) : Link where
  kind := n.kind
  beside :=
    match n.kind.receiverSlot? with
    | some slot => n.children.eraseIdx slot
    | none => n.children
  span := n.span
  attributes := n.attributes

/-- The node, its receiver, the receiver of that, and so on. -/
def receivers : Node → List Node
  | ⟨k, [], s, a⟩ => [⟨k, [], s, a⟩]
  | ⟨k, c :: cs, s, a⟩ =>
    ⟨k, c :: cs, s, a⟩ ::
      match k.receiverSlot? with
      | some _ => receivers c
      | none => []

/-- The nodes of the chain in a statement, outermost first. -/
def chain (statement : Node) : List Node :=
  match statement.children with
  | [] => []
  | c :: _ => c.receivers

def spine (statement : Node) : List Link := statement.chain.map link

variable {n m r statement : Node} {p base : Path} {as bs : List Node}

theorem receiverSlot?_eq_zero {kind : Kind} {slot : Nat} (h : kind.receiverSlot? = some slot) :
    slot = 0 := by
  cases kind with
  | methodCall | propertyFetch | arrayAccess => exact (Option.some.inj h).symm
  | _ => cases h

/-- The receiver is the first child, of the kinds that have one. -/
theorem receiver_eq_ok_iff :
    n.receiver = .ok r ↔ n.kind.receiverSlot? = some 0 ∧ n.children[0]? = some r := by
  constructor
  · intro h
    obtain ⟨slot, found, here⟩ := receiver_eq_ok h
    obtain rfl := receiverSlot?_eq_zero found
    exact ⟨found, here⟩
  · rintro ⟨found, here⟩
    simp only [receiver, found, child, here]

theorem eq_of_receiver (h : n.receiver = .ok r) :
    ∃ k cs s a, n = ⟨k, r :: cs, s, a⟩ ∧ k.receiverSlot? = some 0 := by
  obtain ⟨found, here⟩ := receiver_eq_ok_iff.mp h
  obtain ⟨k, cs, s, a⟩ := n
  cases cs with
  | nil => cases here
  | cons c cs =>
    obtain rfl : c = r := Option.some.inj here
    exact ⟨k, cs, s, a, rfl, found⟩

def IsLast (n : Node) : Prop := ∀ r, n.receiver ≠ .ok r

theorem isLast_or_receiver (n : Node) : n.IsLast ∨ ∃ r, n.receiver = .ok r := by
  by_cases h : ∃ r, n.receiver = .ok r
  · exact .inr h
  · exact .inl (not_exists.mp h)

theorem IsLast.receiverSlot? {k : Kind} {c : Node} {cs : List Node} {s : Option Span}
    {a : Attributes} (h : IsLast ⟨k, c :: cs, s, a⟩) : k.receiverSlot? = none := by
  cases found : k.receiverSlot? with
  | none => rfl
  | some slot =>
    obtain rfl := receiverSlot?_eq_zero found
    exact absurd (receiver_eq_ok_iff.mpr ⟨found, rfl⟩) (h c)

theorem receivers_of_receiver (h : n.receiver = .ok r) : n.receivers = n :: r.receivers := by
  obtain ⟨k, cs, s, a, rfl, slot⟩ := eq_of_receiver h
  simp only [receivers, slot]

theorem receivers_of_last (h : n.IsLast) : n.receivers = [n] := by
  obtain ⟨k, cs, s, a⟩ := n
  cases cs with
  | nil => rfl
  | cons c cs => simp only [receivers, h.receiverSlot?]

theorem receivers_eq_cons {ms : List Node} (h : n.receivers = m :: ms) :
    m = n ∧ (ms = [] ∨ ∃ r, n.receiver = .ok r ∧ ms = r.receivers) := by
  rcases n.isLast_or_receiver with last | ⟨r, received⟩
  · obtain ⟨rfl, rfl⟩ := List.cons.inj ((receivers_of_last last).symm.trans h)
    exact ⟨rfl, .inl rfl⟩
  · obtain ⟨rfl, rfl⟩ := List.cons.inj ((receivers_of_receiver received).symm.trans h)
    exact ⟨rfl, .inr ⟨r, received, rfl⟩⟩

theorem linksFrom_of_receiver (h : n.receiver = .ok r) (base : Path) :
    n.linksFrom base = (base, n) :: r.linksFrom (base.child 0) := by
  obtain ⟨k, cs, s, a, rfl, slot⟩ := eq_of_receiver h
  simp only [linksFrom, slot]

theorem linksFrom_of_last (h : n.IsLast) (base : Path) : n.linksFrom base = [(base, n)] := by
  obtain ⟨k, cs, s, a⟩ := n
  cases cs with
  | nil => rfl
  | cons c cs => simp only [linksFrom, h.receiverSlot?]

private theorem size_lt_of_receiver (h : n.receiver = .ok r) : r.size < n.size := by
  obtain ⟨-, here⟩ := receiver_eq_ok_iff.mp h
  exact Nat.lt_of_le_of_lt (size_le_sizeChildren (List.mem_of_getElem? here)) (sizeChildren_lt_size n)

/-- Along receivers, from the innermost node of a chain outwards. -/
@[elab_as_elim]
theorem receiver_induction {P : Node → Prop} (last : ∀ n, n.IsLast → P n)
    (outer : ∀ n r, n.receiver = .ok r → P r → P n) (n : Node) : P n := by
  rcases n.isLast_or_receiver with h | ⟨r, h⟩
  · exact last n h
  · have smaller := size_lt_of_receiver h
    exact outer n r h (receiver_induction last outer r)
termination_by n.size

/-- What is met along the chain are the receivers, each one step further down. -/
private theorem linksFrom_eq (n : Node) (base : Path) :
    n.linksFrom base = n.receivers.mapIdx fun i m => (base ++ List.replicate i 0, m) := by
  induction n using receiver_induction generalizing base with
  | last n h =>
    rw [receivers_of_last h, linksFrom_of_last h]
    simp
  | outer n r h ih =>
    rw [receivers_of_receiver h, linksFrom_of_receiver h, List.mapIdx_cons, ih]
    simp [Path.child, List.replicate_succ]

private theorem links_eq (statement : Node) :
    statement.links = statement.chain.mapIdx fun i m => (List.replicate (i + 1) 0, m) := by
  unfold links chain
  cases statement.children with
  | nil => rfl
  | cons c cs =>
    dsimp only
    rw [linksFrom_eq]
    rfl

theorem pairwise_links (statement : Node) :
    statement.links.Pairwise fun a b => a.1.length < b.1.length := by
  rw [links_eq, List.pairwise_iff_getElem]
  intro i j hi hj before
  simpa using before

private theorem map_links (statement : Node) : statement.links.map Prod.snd = statement.chain := by
  rw [links_eq]
  exact List.ext_getElem? fun i => by simp [Function.comp_def]

theorem spine_eq (statement : Node) :
    statement.spine = statement.links.map fun l => l.2.link := by
  rw [spine, ← map_links, List.map_map]
  rfl

section Split

variable {xs ys : List (Path × Node)}

/-- A link stands as deep as there are links outside it. -/
theorem path_of_links (split : statement.links = xs ++ (p, m) :: ys) :
    p = List.replicate (xs.length + 1) 0 := by
  have here : statement.links[xs.length]? = some (p, m) := by rw [split]; simp
  rw [links_eq, List.getElem?_mapIdx] at here
  obtain ⟨_, -, same⟩ := Option.map_eq_some_iff.mp here
  exact (Prod.mk.inj same).1.symm

theorem chain_of_links (split : statement.links = xs ++ (p, m) :: ys) :
    statement.chain = xs.map Prod.snd ++ m :: ys.map Prod.snd := by
  rw [← map_links, split, List.map_append, List.map_cons]

theorem spine_of_links (split : statement.links = xs ++ (p, m) :: ys) :
    statement.spine =
      xs.map (fun l => l.2.link) ++ m.link :: ys.map (fun l => l.2.link) := by
  rw [spine_eq, split, List.map_append, List.map_cons]

theorem eraseIdx_of_links (split : statement.links = xs ++ (p, m) :: ys) :
    statement.spine.eraseIdx xs.length =
      xs.map (fun l => l.2.link) ++ ys.map (fun l => l.2.link) := by
  rw [spine_of_links split, List.eraseIdx_append_of_length_le (Nat.le_of_eq (List.length_map _)),
    List.length_map, Nat.sub_self, List.eraseIdx_cons_zero]

end Split

theorem get?_of_receivers (h : n.receivers = as ++ m :: bs) :
    n.get? (List.replicate as.length 0) = some m ∧ m.receivers = m :: bs := by
  induction as generalizing n with
  | nil =>
    obtain ⟨rfl, -⟩ := receivers_eq_cons h
    exact ⟨rfl, h⟩
  | cons a as ih =>
    obtain ⟨rfl, rest | ⟨r, received, rest⟩⟩ := receivers_eq_cons h
    · simp at rest
    · obtain ⟨found, below⟩ := ih rest.symm
      exact ⟨(get?_cons (receiver_eq_ok_iff.mp received).2 _).trans found, below⟩

theorem exists_of_chain (h : statement.chain = as ++ m :: bs) :
    ∃ c cs, statement.children = c :: cs ∧ c.receivers = as ++ m :: bs := by
  unfold chain at h
  split at h
  · simp at h
  · next c cs children => exact ⟨c, cs, children, h⟩

/-- What is met along the chain stands at its path. -/
theorem get?_of_mem_links (h : (p, m) ∈ statement.links) : statement.get? p = some m := by
  obtain ⟨xs, ys, split⟩ := List.append_of_mem h
  obtain ⟨c, cs, children, receivers⟩ := exists_of_chain (chain_of_links split)
  obtain ⟨found, -⟩ := get?_of_receivers receivers
  rw [List.length_map] at found
  rw [path_of_links split]
  exact (get?_cons (by rw [children]; rfl) _).trans found

end Node

namespace Link

def methodName? (l : Link) : Option String :=
  match l.kind with
  | .methodCall name => some name
  | _ => none

/-- The first child beside the receiver, when it is a string literal. -/
def literal? (l : Link) : Option String :=
  match l.beside.head? with
  | some ⟨.str value, _, _, _⟩ => some value
  | _ => none

def isEligible (r : ChainRemoval) (l : Link) : Bool :=
  l.methodName?.any fun name => r.methods.contains name

def binds (r : ChainRemoval) (name : String) (l : Link) : Bool :=
  (l.methodName?.any fun m => r.binderMethods.contains m) && l.literal? == some name

/-- No call binds two placeholders. -/
theorem not_binds_of_binds {r : ChainRemoval} {name name' : String} {l : Link}
    (h : l.binds r name = true) (differ : name ≠ name') : l.binds r name' = false := by
  rw [binds, Bool.and_eq_true, beq_iff_eq] at h
  rw [binds, h.2, Bool.and_eq_false_imp]
  intro _
  simpa using differ

end Link

/-! What a call is to the removal of calls, its link tells. -/
namespace Node

variable {n : Node} {removal : ChainRemoval} {name : String}

theorem link_beside (h : n.methodName?.isSome = true) : n.link.beside = n.callArgs := by
  obtain ⟨name, kind⟩ := exists_kind_of_methodName? h
  simp only [link, callArgs, kind, Kind.receiverSlot?, List.eraseIdx_zero, List.drop_one]

private theorem link_literal? (h : n.methodName?.isSome = true) :
    n.link.literal? = n.firstStringArg? := by
  rw [Link.literal?, link_beside h]
  rfl

theorem link_isEligible (removal : ChainRemoval) (n : Node) :
    n.link.isEligible removal = removal.isEligible n := rfl

theorem link_binds (removal : ChainRemoval) (name : String) (n : Node) :
    n.link.binds removal name = removal.binds name n := by
  unfold Link.binds ChainRemoval.binds
  change ((n.methodName?.any fun m => removal.binderMethods.contains m) && _) = _
  cases h : n.methodName?.any fun m => removal.binderMethods.contains m with
  | false => rfl
  | true => rw [link_literal? (Option.isSome_of_any h)]

/-- A call with an argument has a receiver. -/
theorem exists_receiver_of_binds (h : removal.binds name n = true) : ∃ r, n.receiver = .ok r := by
  rw [ChainRemoval.binds, Bool.and_eq_true, beq_iff_eq] at h
  obtain ⟨method, literal⟩ := h
  obtain ⟨m, kind⟩ := exists_kind_of_methodName? (Option.isSome_of_any method)
  cases children : n.children with
  | nil => simp [firstStringArg?, callArgs, kind, children] at literal
  | cons c cs => exact ⟨c, receiver_eq_ok_iff.mpr ⟨by rw [kind]; rfl, by rw [children]; rfl⟩⟩

end Node
end MutationTesting
