import MutationTesting.Proofs.Tree.Edit

/-! How a tree compares with the one in which a node is replaced: nothing changes beside the path of
the node, and where the two trees have one shape so have the node and what took its place. -/
namespace MutationTesting.Node

variable {n c m r tree : Node} {i : Nat} {p q : Path}

/-- The trees are the same beside a path, and a node on the way along the path differs in no more
than the child that is next on it. -/
structure SameBeside (p : Path) (before after : Node) : Prop where
  apart : ∀ q, ¬ p <+: q → ¬ q <+: p → after.get? q = before.get? q
  above : ∀ q i s, p = q ++ i :: s → ∃ n c c', before.get? q = some n ∧
    n.children[i]? = some c ∧ after.get? q = some { n with children := n.children.set i c' }

theorem children_set_ne {j : Nat} (other : j ≠ i) (c' : Node) :
    (n.children.set i c')[j]? = n.children[j]? :=
  List.getElem?_set_ne other.symm

theorem get?_of_set? (h : n.set? p r = some tree) : tree.get? p = some r := by
  induction p generalizing n tree with
  | nil =>
    obtain rfl := Option.some.inj h
    rfl
  | cons i p ih =>
    obtain ⟨c, c', hc, below, rfl⟩ := exists_child_of_set? h
    have within : i < n.children.length := (List.getElem?_eq_some_iff.mp hc).1
    have here : (n.children.set i c')[i]? = some c' := List.getElem?_set_self within
    rw [get?_cons here]
    exact ih below

theorem get?_set?_apart (h : n.set? p r = some tree) (below : ¬ p <+: q) (above : ¬ q <+: p) :
    tree.get? q = n.get? q := by
  induction p generalizing n tree q with
  | nil => exact absurd List.nil_prefix below
  | cons i p ih =>
    obtain ⟨c, c', hc, replaced, rfl⟩ := exists_child_of_set? h
    cases q with
    | nil => exact absurd List.nil_prefix above
    | cons j q =>
      by_cases same : j = i
      · subst same
        have within : j < n.children.length := (List.getElem?_eq_some_iff.mp hc).1
        have here : (n.children.set j c')[j]? = some c' := List.getElem?_set_self within
        rw [get?_cons here, get?_cons hc]
        refine ih replaced (fun longer => below ?_) fun shorter => above ?_
        · exact List.cons_prefix_cons.mpr ⟨rfl, longer⟩
        · exact List.cons_prefix_cons.mpr ⟨rfl, shorter⟩
      · simp only [get?, children_set_ne same]

private theorem get?_set?_above {s : Path} (h : n.set? (q ++ i :: s) r = some tree) :
    ∃ m c c', n.get? q = some m ∧ m.children[i]? = some c ∧
      tree.get? q = some { m with children := m.children.set i c' } := by
  induction q generalizing n tree with
  | nil =>
    obtain ⟨c, c', hc, -, rfl⟩ := exists_child_of_set? h
    exact ⟨n, c, c', rfl, hc, rfl⟩
  | cons j q ih =>
    obtain ⟨d, d', hd, replaced, rfl⟩ := exists_child_of_set? h
    obtain ⟨m, c, c', here, child, after⟩ := ih replaced
    have within : j < n.children.length := (List.getElem?_eq_some_iff.mp hd).1
    have next : (n.children.set j d')[j]? = some d' := List.getElem?_set_self within
    exact ⟨m, c, c', (get?_cons hd q).trans here, child, (get?_cons next q).trans after⟩

/-- Replacing a node changes nothing beside its path. -/
theorem sameBeside_of_set? (h : n.set? p r = some tree) : SameBeside p n tree where
  apart _ below above := get?_set?_apart h below above
  above := by
    rintro q i s rfl
    exact get?_set?_above h

section Shape

variable {a b : Node}

private theorem agreeAll_cons (rest : List (Node × Node)) :
    agreeAll ((a, b) :: rest) = true ↔
      (a.kind.agrees b.kind = true ∧ a.children.length = b.children.length) ∧
        agreeAll (a.children.zip b.children ++ rest) = true := by
  rw [agreeAll]
  split
  · next alike =>
    have alike : a.kind.agrees b.kind = true ∧ a.children.length = b.children.length := by
      simpa using alike
    simp [alike]
  · next differ =>
    have unlike : ¬ (a.kind.agrees b.kind = true ∧ a.children.length = b.children.length) := by
      simpa using differ
    simp [unlike]

private theorem agreeAll_append (xs ys : List (Node × Node)) :
    agreeAll (xs ++ ys) = true ↔ agreeAll xs = true ∧ agreeAll ys = true := by
  induction xs using agreeAll.induct with
  | case1 => simp [agreeAll]
  | case2 a b rest alike ih =>
    rw [List.cons_append, agreeAll_cons, agreeAll_cons, ← List.append_assoc, ih]
    exact and_assoc.symm
  | case3 a b rest differ =>
    have unlike : ¬ (a.kind.agrees b.kind = true ∧ a.children.length = b.children.length) := by
      simpa using differ
    rw [List.cons_append, agreeAll_cons, agreeAll_cons]
    simp [unlike]

theorem agreeAll_iff {pending : List (Node × Node)} :
    agreeAll pending = true ↔ ∀ x ∈ pending, x.1.sameShape x.2 = true := by
  induction pending with
  | nil => simp [agreeAll]
  | cons x rest ih =>
    have split := agreeAll_append [x] rest
    rw [List.singleton_append] at split
    rw [split, ih, List.forall_mem_cons]
    exact Iff.rfl

/-- Two trees have one shape if their roots agree and their children have one shape in pairs. -/
theorem sameShape_iff : a.sameShape b = true ↔
    (a.kind.agrees b.kind = true ∧ a.children.length = b.children.length) ∧
      ∀ x ∈ a.children.zip b.children, x.1.sameShape x.2 = true := by
  rw [sameShape, agreeAll_cons, List.append_nil, agreeAll_iff]

/-- In trees of one shape a path leads to nodes of one shape. -/
theorem sameShape_get? {a' b' : Node} (h : a.sameShape b = true) (ha : a.get? p = some a')
    (hb : b.get? p = some b') : a'.sameShape b' = true := by
  induction p generalizing a b with
  | nil =>
    obtain rfl := Option.some.inj ha
    obtain rfl := Option.some.inj hb
    exact h
  | cons i p ih =>
    obtain ⟨c, hc, belowA⟩ := exists_child_of_get? ha
    obtain ⟨d, hd, belowB⟩ := exists_child_of_get? hb
    have pair : (a.children.zip b.children)[i]? = some (c, d) :=
      List.getElem?_zip_eq_some.mpr ⟨hc, hd⟩
    exact ih ((sameShape_iff.mp h).2 (c, d) (List.mem_of_getElem? pair)) belowA belowB

private theorem pendingSize_zip {as bs : List Node} (h : as.length = bs.length) :
    pendingSize (as.zip bs) = sizeChildren as ∧
      pendingSize ((as.zip bs).map Prod.swap) = sizeChildren bs := by
  induction as generalizing bs with
  | nil =>
    cases bs with
    | nil => exact ⟨rfl, rfl⟩
    | cons b bs => cases h
  | cons a as ih =>
    cases bs with
    | nil => cases h
    | cons b bs =>
      obtain ⟨left, right⟩ := ih (Nat.succ.inj h)
      simp only [List.zip_cons_cons, List.map_cons, Prod.swap_prod_mk, pendingSize, sizeChildren,
        left, right, and_self]

private theorem pendingSize_eq_of_agreeAll {pending : List (Node × Node)}
    (h : agreeAll pending = true) : pendingSize pending = pendingSize (pending.map Prod.swap) := by
  induction pending using agreeAll.induct with
  | case1 => rfl
  | case2 a b rest alike ih =>
    obtain ⟨⟨-, lengths⟩, below⟩ := (agreeAll_cons rest).mp h
    have sizes := ih below
    obtain ⟨left, right⟩ := pendingSize_zip lengths
    rw [List.map_append, pendingSize_append, pendingSize_append, left, right] at sizes
    simp only [List.map_cons, Prod.swap_prod_mk, pendingSize, size_eq]
    omega
  | case3 a b rest differ =>
    exact absurd ((agreeAll_cons rest).mp h).1 (by simpa using differ)

/-- Trees of one shape have as many nodes. -/
theorem size_eq_of_sameShape (h : a.sameShape b = true) : a.size = b.size := by
  have sizes := pendingSize_eq_of_agreeAll h
  simpa [pendingSize] using sizes

end Shape
end MutationTesting.Node
