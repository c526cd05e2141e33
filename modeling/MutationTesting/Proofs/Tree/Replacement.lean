import MutationTesting.Proofs.Except
import MutationTesting.Proofs.Tree.Change

/-! Looking up a path and replacing what is there obey the laws of a lens: what was put in is found,
what was found can be put back, and of two replacements in one place the later one counts. Beside
the place nothing changes, and so replacements in places apart can be made in either order. -/
namespace MutationTesting

/-- Neither path goes on from the other: somewhere they lead to different children of one node. -/
def Path.Diverges (p q : Path) : Prop := ¬ p <+: q ∧ ¬ q <+: p

namespace Path

variable {i j : Nat} {p q : Path}

theorem Diverges.symm (h : p.Diverges q) : q.Diverges p := ⟨h.2, h.1⟩

private theorem Diverges.ne_nil (h : p.Diverges q) : q ≠ [] := by
  rintro rfl
  exact h.2 List.nil_prefix

private theorem diverges_cons_cons : Diverges (i :: p) (j :: q) ↔ i ≠ j ∨ p.Diverges q := by
  simp only [Diverges, List.cons_prefix_cons]
  by_cases same : i = j
  · simp [same]
  · simp [same, Ne.symm same]

end Path

namespace Node

variable {n m r u : Node} {i j : Nat} {p q : Path}

theorem get?_append (n : Node) (p s : Path) : n.get? (p ++ s) = (n.get? p).bind (·.get? s) := by
  induction p generalizing n with
  | nil => rfl
  | cons i p ih =>
    cases here : n.children[i]? with
    | none => simp [get?, here]
    | some c => rw [List.cons_append, get?_cons here, get?_cons here, ih]

private theorem get?_of_set?_append (h : n.set? p r = some u) (s : Path) :
    u.get? (p ++ s) = r.get? s := by
  rw [get?_append, get?_of_set? h, Option.bind_some]

/-- A replacement inside a child replaces the child. -/
theorem set?_cons (n : Node) (i : Nat) (p : Path) (r : Node) :
    n.set? (i :: p) r = (n.children[i]?.bind fun c => c.set? p r).map fun c' =>
      { n with children := n.children.set i c' } := by
  cases here : n.children[i]? <;> simp [set?, here]

/-- There is something to replace where there is something to find. -/
private theorem isSome_set? (n : Node) (p : Path) (r : Node) :
    (n.set? p r).isSome = (n.get? p).isSome := by
  induction p generalizing n with
  | nil => rfl
  | cons i p ih =>
    rw [set?_cons, Option.isSome_map, get?]
    cases n.children[i]? with
    | none => rfl
    | some c => exact ih c

private theorem set?_eq_none : n.set? p r = none ↔ n.get? p = none := by
  rw [← Option.not_isSome_iff_eq_none, isSome_set?, Option.not_isSome_iff_eq_none]

/-- What stands at a path can be put there. -/
private theorem set?_get? (h : n.get? p = some m) : n.set? p m = some n := by
  induction p generalizing n with
  | nil =>
    obtain rfl := Option.some.inj h
    rfl
  | cons i p ih =>
    obtain ⟨c, here, below⟩ := exists_child_of_get? h
    obtain ⟨within, rfl⟩ := List.getElem?_eq_some_iff.mp here
    rw [set?_cons, here, Option.bind_some, ih below, Option.map_some, List.set_getElem_self]
    cases n
    rfl

/-- A replacement inside a child that has just been put in its place. -/
private theorem set?_set_self (within : i < n.children.length) (c : Node) (p : Path) (r : Node) :
    set? { n with children := n.children.set i c } (i :: p) r =
      (c.set? p r).map fun c' => { n with children := n.children.set i c' } := by
  simp only [set?_cons, List.getElem?_set_self within, Option.bind_some, List.set_set]

/-- The later of two replacements at one path is the one that counts. -/
private theorem set?_set? (h : n.set? p r = some u) (r' : Node) : u.set? p r' = n.set? p r' := by
  induction p generalizing n u with
  | nil => rfl
  | cons i p ih =>
    obtain ⟨c, c', here, below, rfl⟩ := exists_child_of_set? h
    have within : i < n.children.length := (List.getElem?_eq_some_iff.mp here).1
    rw [set?_set_self within, set?_cons, here, Option.bind_some, ih below]

/-- A replacement below a path replaces the node at the path. -/
private theorem set?_append (n : Node) (p s : Path) (r : Node) :
    n.set? (p ++ s) r = (n.get? p).bind fun m => (m.set? s r).bind fun m' => n.set? p m' := by
  induction p generalizing n with
  | nil => simp [get?, set?]
  | cons i p ih =>
    rw [List.cons_append, set?_cons, get?]
    cases here : n.children[i]? with
    | none => rfl
    | some c =>
      simp only [Option.bind_some, ih, set?_cons, here, Option.map_bind, Function.comp_def]

/-- Replacements inside different children can change places. -/
private theorem set?_comm_beside (n : Node) (other : i ≠ j) (p q : Path) (r r' : Node) :
    ((n.set? (i :: p) r).bind fun u => u.set? (j :: q) r') =
      (n.set? (j :: q) r').bind fun u => u.set? (i :: p) r := by
  simp only [set?_cons, Option.bind_map, Function.comp_def, children_set_ne other,
    children_set_ne other.symm]
  cases n.children[i]?.bind fun c => c.set? p r with
  | none => simp
  | some c =>
    cases n.children[j]?.bind fun d => d.set? q r' with
    | none => rfl
    | some d => simp only [Option.bind_some, Option.map_some, List.set_comm c d other]

/-- Replacements at paths that part can change places. -/
private theorem set?_comm (n : Node) (apart : Path.Diverges p q) (r r' : Node) :
    ((n.set? p r).bind fun u => u.set? q r') = (n.set? q r').bind fun u => u.set? p r := by
  induction p generalizing n q with
  | nil => exact absurd rfl apart.symm.ne_nil
  | cons i p ih =>
    cases q with
    | nil => exact absurd rfl apart.ne_nil
    | cons j q =>
      by_cases same : i = j
      · subst same
        have deeper : Path.Diverges p q := by simpa [Path.diverges_cons_cons] using apart
        cases here : n.children[i]? with
        | none => simp [set?_cons, here]
        | some c =>
          have within : i < n.children.length := (List.getElem?_eq_some_iff.mp here).1
          have inside := congrArg (Option.map fun c' => { n with children := n.children.set i c' })
            (ih c deeper)
          simpa only [set?_cons n, here, Option.bind_some, Option.bind_map, Option.map_bind,
            Function.comp_def, set?_set_self within] using inside
      · exact set?_comm_beside n same p q r r'

private theorem put_of_set? (h : n.set? p r = some u) : n.put p r = u := by
  rw [put, h, Option.getD_some]

private theorem put_eq_self (missing : n.get? p = none) (r : Node) : n.put p r = n := by
  rw [put, set?_eq_none.mpr missing, Option.getD_none]

/-- What is put at a path and then changed below it might have been changed before. -/
theorem put_put_append (n : Node) (p s : Path) (m r : Node) :
    (n.put p m).put (p ++ s) r = n.put p (m.put s r) := by
  cases here : n.get? p with
  | none =>
    have missing : n.get? (p ++ s) = none := by rw [get?_append, here, Option.bind_none]
    rw [put_eq_self here, put_eq_self here, put_eq_self missing]
  | some c =>
    obtain ⟨u, first⟩ := exists_set?_of_get? here m
    have below : u.set? (p ++ s) r = (m.set? s r).bind (n.set? p) := by
      simp only [set?_append, get?_of_set? first, set?_set? first, Option.bind_some]
    rw [put_of_set? first, put, below]
    cases inside : m.set? s r with
    | none =>
      have unchanged : m.put s r = m := by rw [put, inside, Option.getD_none]
      rw [unchanged, put_of_set? first, Option.bind_none, Option.getD_none]
    | some m' =>
      obtain ⟨u', second⟩ := exists_set?_of_get? here m'
      rw [put_of_set? inside, put_of_set? second, Option.bind_some, second, Option.getD_some]

section Errors

private theorem toOption_locate (n : Node) (p : Path) : (n.locate p).toOption = n.get? p := by
  unfold locate
  cases n.get? p <;> rfl

private theorem toOption_withReplaced (n : Node) (p : Path) (r : Node) :
    (n.withReplaced p r).toOption = n.set? p r := by
  unfold withReplaced
  cases n.set? p r <;> rfl

private theorem locate_congr (h : u.get? p = n.get? p) : u.locate p = n.locate p := by
  rw [locate, locate, h]

private theorem withReplaced_congr (h : u.set? p r = n.set? p r) :
    u.withReplaced p r = n.withReplaced p r := by
  rw [withReplaced, withReplaced, h]

/-- Looking up and replacing miss the same paths. -/
private theorem missing_of_locate_ne (h : ∀ m, n.locate p ≠ .ok m) (r : Node) :
    n.locate p = .error (.missingPath p) ∧ n.withReplaced p r = .error (.missingPath p) := by
  have missing : n.get? p = none := Option.eq_none_iff_forall_ne_some.mpr fun m found =>
    h m (locate_eq_ok.mpr found)
  exact ⟨by rw [locate, missing], by rw [withReplaced, set?_eq_none.mpr missing]⟩

private theorem exists_withReplaced_iff (r : Node) :
    (∃ u, n.withReplaced p r = .ok u) ↔ ∃ m, n.locate p = .ok m := by
  simp only [withReplaced_eq_ok, locate_eq_ok, ← Option.isSome_iff_exists, isSome_set?]

def IsReceiver (m c : Node) : Prop :=
  ∃ slot, m.kind.receiverSlot? = some slot ∧ m.children[slot]? = some c

private theorem isReceiver_iff : m.IsReceiver r ↔ m.receiver = .ok r := by
  refine ⟨?_, receiver_eq_ok⟩
  rintro ⟨slot, found, here⟩
  simp only [receiver, found, child, here]

private theorem spliceReceiver_eq (here : n.locate p = .ok m) (received : m.IsReceiver r) :
    n.spliceReceiver p = n.withReplaced p r := by
  rw [spliceReceiver, here, ok_bind, isReceiver_iff.mp received, ok_bind]

private theorem exists_spliceReceiver_iff :
    (∃ u, n.spliceReceiver p = .ok u) ↔ ∃ m r, n.locate p = .ok m ∧ m.IsReceiver r := by
  constructor
  · rintro ⟨u, spliced⟩
    obtain ⟨m, here, spliced⟩ := bind_eq_ok.mp spliced
    obtain ⟨r, received, -⟩ := bind_eq_ok.mp spliced
    exact ⟨m, r, here, isReceiver_iff.mpr received⟩
  · rintro ⟨m, r, here, received⟩
    rw [spliceReceiver_eq here received]
    exact (exists_withReplaced_iff r).mpr ⟨m, here⟩

end Errors

/-- The tree after an edit of it, which is the tree before it where the edit failed. -/
def afterEdit (n : Node) (edit : Except ShapeError Node) : Node := edit.toOption.getD n

/-- Editing at paths obeys the laws of a lens. Replacing succeeds where looking up does, and both
miss the same paths. Then the replacement stands at the path with all that is below it, nothing has
changed beside the path, and another replacement there makes the first one forgotten. Putting back
what stood there changes nothing, and replacements at paths that part come to the same tree in
either order. Splicing a receiver is replacing a node by what it has in its receiver slot, if that
is there; otherwise the tree stays as it was. -/
theorem path_edits_obey_lens_laws (t : Node) (p : Path) (r : Node) :
    ((∃ u, t.withReplaced p r = .ok u) ↔ ∃ m, t.locate p = .ok m) ∧
    ((∀ m, t.locate p ≠ .ok m) →
      t.locate p = .error (.missingPath p) ∧ t.withReplaced p r = .error (.missingPath p)) ∧
    (∀ u, t.withReplaced p r = .ok u → u.locate p = .ok r ∧
      (∀ s, (u.locate (p ++ s)).toOption = (r.locate s).toOption) ∧
      (∀ q, p.Diverges q → u.locate q = t.locate q) ∧
      ∀ r', u.withReplaced p r' = t.withReplaced p r') ∧
    (∀ m, t.locate p = .ok m → t.withReplaced p m = .ok t) ∧
    (∀ q r', p.Diverges q → (t.withReplaced p r >>= (·.withReplaced q r')).toOption =
      (t.withReplaced q r' >>= (·.withReplaced p r)).toOption) ∧
    ((∃ u, t.spliceReceiver p = .ok u) ↔ ∃ m c, t.locate p = .ok m ∧ m.IsReceiver c) ∧
    (∀ m c, t.locate p = .ok m → m.IsReceiver c → t.spliceReceiver p = t.withReplaced p c) ∧
    (∀ e, t.spliceReceiver p = .error e → t.afterEdit (t.spliceReceiver p) = t) := by
  refine ⟨exists_withReplaced_iff r, fun h => missing_of_locate_ne h r, fun u replaced => ?_,
    fun m here => ?_, fun q r' apart => ?_, exists_spliceReceiver_iff,
    fun m c here received => spliceReceiver_eq here received, fun e failed => ?_⟩
  · have put := withReplaced_eq_ok.mp replaced
    refine ⟨locate_eq_ok.mpr (get?_of_set? put), fun s => ?_, fun q apart => ?_, fun r' => ?_⟩
    · rw [toOption_locate, toOption_locate, get?_of_set?_append put]
    · exact locate_congr (get?_set?_apart put apart.1 apart.2)
    · exact withReplaced_congr (set?_set? put r')
  · exact withReplaced_eq_ok.mpr (set?_get? (locate_eq_ok.mp here))
  · simp only [toOption_bind, toOption_withReplaced]
    exact set?_comm t apart r r'
  · rw [failed]
    rfl

namespace Sample

def filteredQuery : Node where
  kind := .methodCall "where"
  children := [leaf (.variableRef "$qb"), leaf (.str "u.id = 1")]

def orderedQuery : Node where
  kind := .methodCall "orderBy"
  children := [filteredQuery, leaf (.str "id")]

end Sample

theorem sample_path_edits_obey_lens_laws :
    ∃ u, Sample.orderedQuery.withReplaced [0] Sample.orderedQuery = .ok u ∧
      u.locate [0] = .ok Sample.orderedQuery ∧
      (u.locate [0, 0]).toOption = some Sample.filteredQuery ∧
      u.locate [1] = .ok (leaf (.str "id")) ∧
      u.withReplaced [0] Sample.filteredQuery = .ok Sample.orderedQuery ∧
      (u.withReplaced [1] (leaf .null)).toOption =
        (Sample.orderedQuery.withReplaced [1] (leaf .null) >>=
          (·.withReplaced [0] Sample.orderedQuery)).toOption ∧
      Sample.orderedQuery.spliceReceiver [0] =
        Sample.orderedQuery.withReplaced [0] (leaf (.variableRef "$qb")) ∧
      Sample.orderedQuery.withReplaced [2] u = .error (.missingPath [2]) ∧
      Sample.orderedQuery.afterEdit (Sample.orderedQuery.spliceReceiver [1]) =
        Sample.orderedQuery := by
  have apart : Path.Diverges [0] [1] := by simp [Path.diverges_cons_cons]
  obtain ⟨-, -, put, back, swap, -, splice, -⟩ :=
    path_edits_obey_lens_laws Sample.orderedQuery [0] Sample.orderedQuery
  obtain ⟨u, replaced⟩ : ∃ u, Sample.orderedQuery.withReplaced [0] Sample.orderedQuery = .ok u :=
    ⟨_, rfl⟩
  obtain ⟨here, below, beside, again⟩ := put u replaced
  obtain ⟨-, miss, -⟩ := path_edits_obey_lens_laws Sample.orderedQuery [2] u
  obtain ⟨-, -, -, -, -, -, -, kept⟩ := path_edits_obey_lens_laws Sample.orderedQuery [1] u
  refine ⟨u, replaced, here, below [0], beside [1] apart,
    (again Sample.filteredQuery).trans (back Sample.filteredQuery rfl), ?_,
    splice Sample.filteredQuery (leaf (.variableRef "$qb")) rfl ⟨0, rfl, rfl⟩,
    (miss fun m found => nomatch found).2, kept _ rfl⟩
  rw [← swap [1] (leaf .null) apart, replaced, ok_bind]

end Node
end MutationTesting
