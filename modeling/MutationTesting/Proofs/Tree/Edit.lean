import MutationTesting.Tree.Edit

/-! Looking up and replacing along a path, one step at a time. -/
namespace MutationTesting.Node

variable {n c m r : Node} {i : Nat} {p : Path}

theorem get?_cons (here : n.children[i]? = some c) (p : Path) : n.get? (i :: p) = c.get? p := by
  rw [get?, here]

/-- A path that leads somewhere begins at a child. -/
theorem exists_child_of_get? (h : n.get? (i :: p) = some m) :
    ∃ c, n.children[i]? = some c ∧ c.get? p = some m := by
  cases hc : n.children[i]? with
  | none => simp [get?, hc] at h
  | some c => exact ⟨c, rfl, (get?_cons hc p).symm.trans h⟩

def Everywhere (P : Node → Prop) (n : Node) : Prop := ∀ q m, n.get? q = some m → P m

theorem everywhere_iff {P : Node → Prop} :
    n.Everywhere P ↔ P n ∧ ∀ c ∈ n.children, c.Everywhere P := by
  constructor
  · intro h
    refine ⟨h [] n rfl, fun c member q m found => ?_⟩
    obtain ⟨i, here⟩ := List.mem_iff_getElem?.mp member
    exact h (i :: q) m ((get?_cons here q).trans found)
  · rintro ⟨self, below⟩ q m found
    cases q with
    | nil =>
      obtain rfl := Option.some.inj found
      exact self
    | cons i q =>
      obtain ⟨c, here, inside⟩ := exists_child_of_get? found
      exact below c (List.mem_of_getElem? here) q m inside

theorem size_le_sizeChildren {cs : List Node} (h : c ∈ cs) : c.size ≤ sizeChildren cs := by
  induction cs with
  | nil => cases h
  | cons d ds ih =>
    rw [sizeChildren]
    rcases List.mem_cons.mp h with rfl | later
    · exact Nat.le_add_right _ _
    · exact Nat.le_add_left_of_le (ih later)

theorem size_le_of_get? (h : n.get? p = some m) : m.size ≤ n.size := by
  induction p generalizing n with
  | nil =>
    obtain rfl := Option.some.inj h
    exact Nat.le_refl _
  | cons i p ih =>
    obtain ⟨c, hc, below⟩ := exists_child_of_get? h
    have child := size_le_sizeChildren (List.mem_of_getElem? hc)
    have inside := sizeChildren_lt_size n
    have deeper := ih below
    omega

theorem exists_child_of_set? {tree : Node} (h : n.set? (i :: p) r = some tree) :
    ∃ c c', n.children[i]? = some c ∧ c.set? p r = some c' ∧
      tree = { n with children := n.children.set i c' } := by
  cases hc : n.children[i]? with
  | none => simp [set?, hc] at h
  | some c =>
    simp only [set?, hc, Option.map_eq_some_iff] at h
    obtain ⟨c', below, rfl⟩ := h
    exact ⟨c, c', rfl, below, rfl⟩

theorem exists_set?_of_get? (h : n.get? p = some m) (r : Node) :
    ∃ tree, n.set? p r = some tree := by
  induction p generalizing n with
  | nil => exact ⟨r, rfl⟩
  | cons i p ih =>
    obtain ⟨c, hc, below⟩ := exists_child_of_get? h
    obtain ⟨c', replaced⟩ := ih below
    exact ⟨{ n with children := n.children.set i c' }, by
      simp only [set?, hc, replaced, Option.map_some]⟩

private theorem sizeChildren_set {cs : List Node} (here : cs[i]? = some c) (c' : Node) :
    sizeChildren (cs.set i c') + c.size = sizeChildren cs + c'.size := by
  induction cs generalizing i with
  | nil => cases here
  | cons d ds ih =>
    cases i with
    | zero =>
      obtain rfl : d = c := by simpa using here
      simp only [List.set_cons_zero, sizeChildren]
      omega
    | succ i =>
      have later := ih (i := i) (by simpa using here)
      simp only [List.set_cons_succ, sizeChildren]
      omega

theorem size_eq (n : Node) : n.size = 1 + sizeChildren n.children := by
  cases n
  rfl

/-- A tree changes its size by as much as the node that is replaced. -/
theorem size_set? {tree : Node} (here : n.get? p = some m) (h : n.set? p r = some tree) :
    tree.size + m.size = n.size + r.size := by
  induction p generalizing n tree with
  | nil =>
    obtain rfl := Option.some.inj here
    obtain rfl := Option.some.inj h
    exact Nat.add_comm _ _
  | cons i p ih =>
    obtain ⟨c, c', hc, below, rfl⟩ := exists_child_of_set? h
    have child := ih ((get?_cons hc p).symm.trans here) below
    have siblings := sizeChildren_set hc c'
    simp only [size_eq n, size_eq { n with children := _ }]
    omega

theorem kind_of_set?_cons {tree : Node} (h : n.set? (i :: p) r = some tree) :
    tree.kind = n.kind := by
  obtain ⟨_, _, -, -, rfl⟩ := exists_child_of_set? h
  rfl

theorem locate_eq_ok : n.locate p = .ok m ↔ n.get? p = some m := by
  unfold locate
  cases n.get? p <;> simp

theorem isOk_locate (n : Node) (p : Path) : (n.locate p).isOk = (n.get? p).isSome := by
  unfold locate
  cases n.get? p <;> rfl

theorem withReplaced_eq_ok {tree : Node} :
    n.withReplaced p r = .ok tree ↔ n.set? p r = some tree := by
  unfold withReplaced
  cases n.set? p r <;> simp

theorem receiver_eq_ok (h : n.receiver = .ok r) :
    ∃ slot, n.kind.receiverSlot? = some slot ∧ n.children[slot]? = some r := by
  unfold receiver at h
  split at h
  · next slot found =>
    unfold child at h
    split at h
    · next c here => exact ⟨slot, found, (Except.ok.inj h) ▸ here⟩
    · cases h
  · cases h

theorem exists_kind_of_methodName? (h : n.methodName?.isSome = true) :
    ∃ name, n.kind = .methodCall name := by
  unfold methodName? at h
  split at h
  · next name kind => exact ⟨name, kind⟩
  · cases h

end MutationTesting.Node
