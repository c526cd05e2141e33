import MutationTesting.Proofs.Operator.Rechained

/-! What the removal of a call takes out of a chain: the call, and the bindings of its placeholders.
Bindings of different placeholders are different calls, so it does not matter which go first. -/
namespace MutationTesting

open Node

section Lists

variable {α : Type} {f g : α → Bool}

private theorem filter_eraseP (xs : List α) :
    (xs.eraseP f).filter (fun x => !f x) = xs.filter fun x => !f x := by
  rcases List.exists_or_eq_self_of_eraseP f xs with same | ⟨x, as, bs, -, found, rfl, erased⟩
  · rw [same]
  · rw [erased]
    simp [found]

theorem countP_eraseP (xs : List α) : (xs.eraseP f).countP f = xs.countP f - 1 := by
  induction xs with
  | nil => rfl
  | cons x xs ih => cases found : f x <;> simp [found, ih]

/-- An element that is no `g` does not count as one. -/
theorem countP_eraseP_of_ne (apart : ∀ x, f x = true → g x = false) (xs : List α) :
    (xs.eraseP f).countP g = xs.countP g := by
  rcases List.exists_or_eq_self_of_eraseP f xs with same | ⟨x, as, bs, -, found, rfl, erased⟩
  · rw [same]
  · rw [erased]
    simp [apart x found]

end Lists

namespace ChainRemoval

variable {r : ChainRemoval} {statement left : Node} {name : String} {p : Path}

/-- The links that are left when the bindings of placeholders are taken out as the rule says: of
each placeholder the outermost, or all. -/
def unbound (r : ChainRemoval) (names : List String) (links : List Link) : List Link :=
  match r.bindings with
  | .first => names.foldl (fun links name => links.eraseP (Link.binds r name)) links
  | .all => links.filter fun l => !names.any fun name => l.binds r name

private theorem findBinder?_eq_none (h : r.findBinder? statement name = none) :
    ∀ l ∈ statement.spine, l.binds r name = false := by
  intro l member
  rw [spine_eq] at member
  obtain ⟨x, linked, rfl⟩ := List.mem_map.mp member
  rw [link_binds]
  simpa using List.find?_eq_none.mp (Option.map_eq_none_iff.mp h) x linked

/-- The binder that is found is the outermost, and it has a receiver. -/
private theorem findBinder?_eq_some (h : r.findBinder? statement name = some p) :
    ∃ xs m ys inner, statement.links = xs ++ (p, m) :: ys ∧ m.receiver = .ok inner ∧
      statement.spine.eraseP (Link.binds r name) = statement.spine.eraseIdx xs.length := by
  obtain ⟨⟨_, m⟩, found, rfl⟩ := Option.map_eq_some_iff.mp h
  obtain ⟨binds, xs, ys, split, outer⟩ := List.find?_eq_some_iff_append.mp found
  obtain ⟨inner, received⟩ := exists_receiver_of_binds binds
  refine ⟨xs, m, ys, inner, split, received, ?_⟩
  have before : ∀ l ∈ xs.map (fun l => l.2.link), ¬ l.binds r name = true := by
    intro l member
    obtain ⟨x, outside, rfl⟩ := List.mem_map.mp member
    rw [link_binds]
    simpa using outer x outside
  rw [eraseIdx_of_links split, spine_of_links split, List.eraseP_append_right _ before,
    List.eraseP_cons_of_pos (by rw [link_binds]; exact binds)]

/-- A round takes out the outermost binder. Where there is none, neither this round nor the later ones
change anything. -/
private theorem removeBinders_succ (r : ChainRemoval) (name : String) (count : Nat)
    (statement : Node) :
    ∃ next, Rechained statement next (statement.spine.eraseP (Link.binds r name)) ∧
      r.removeBinders name (count + 1) statement = r.removeBinders name count next := by
  rw [removeBinders]
  split
  · next p found =>
    obtain ⟨xs, m, ys, inner, split, received, erased⟩ := findBinder?_eq_some found
    obtain ⟨next, spliced, after⟩ := rechained_spliceReceiver split received
    exact ⟨next, erased ▸ after, by rw [spliced, ok_bind]⟩
  · next absent =>
    have none := findBinder?_eq_none absent
    refine ⟨statement, ?_, ?_⟩
    · rw [List.eraseP_of_forall_not fun l member => by simp [none l member]]
      exact .refl statement
    · cases count with
      | zero => rfl
      | succ count => rw [removeBinders, absent]

/-- As many rounds as there are binders take them all out. -/
private theorem removeBinders_all {count : Nat}
    (enough : statement.spine.countP (Link.binds r name) ≤ count) :
    ∃ left, r.removeBinders name count statement = .ok left ∧
      Rechained statement left (statement.spine.filter fun l => !l.binds r name) := by
  induction count generalizing statement with
  | zero =>
    refine ⟨statement, rfl, ?_⟩
    have none := List.countP_eq_zero.mp (Nat.le_zero.mp enough)
    rw [List.filter_eq_self.mpr fun l member => by simpa using none l member]
    exact .refl statement
  | succ count ih =>
    obtain ⟨next, erased, same⟩ := removeBinders_succ r name count statement
    rw [same]
    have fewer : next.spine.countP (Link.binds r name) ≤ count := by
      rw [erased.spine, countP_eraseP]
      omega
    obtain ⟨left, removed, after⟩ := ih fewer
    refine ⟨left, removed, erased.trans ?_⟩
    rw [erased.spine, filter_eraseP] at after
    exact after

private theorem removeBindings_rechained (r : ChainRemoval) (statement : Node) (name : String) :
    ∃ left, r.removeBindings statement name = .ok left ∧
      Rechained statement left (r.unbound [name] statement.spine) := by
  unfold removeBindings unbound
  cases r.bindings with
  | first =>
    obtain ⟨next, erased, same⟩ := removeBinders_succ r name 0 statement
    exact ⟨next, same, erased⟩
  | all =>
    -- The rounds are as many as the links, and every binder is a link.
    have enough : statement.spine.countP (Link.binds r name) ≤ statement.links.length := by
      rw [spine_eq, ← List.length_map fun l : Path × Node => l.2.link]
      exact List.countP_le_length
    obtain ⟨left, removed, after⟩ := removeBinders_all enough
    refine ⟨left, removed, ?_⟩
    simpa using after

private theorem unbound_cons (r : ChainRemoval) (name : String) (names : List String)
    (links : List Link) :
    r.unbound (name :: names) links = r.unbound names (r.unbound [name] links) := by
  unfold unbound
  cases r.bindings with
  | first => rfl
  | all => simp [List.filter_filter, Bool.and_comm]

/-- All placeholders of the call one after the other. -/
private theorem foldlM_removeBindings (r : ChainRemoval) (names : List String) (statement : Node) :
    ∃ left, names.foldlM r.removeBindings statement = .ok left ∧
      Rechained statement left (r.unbound names statement.spine) := by
  induction names generalizing statement with
  | nil =>
    refine ⟨statement, rfl, ?_⟩
    have same : r.unbound [] statement.spine = statement.spine := by
      unfold unbound
      cases r.bindings <;> simp
    rw [same]
    exact .refl statement
  | cons name names ih =>
    obtain ⟨next, removed, first⟩ := removeBindings_rechained r statement name
    obtain ⟨left, rest, after⟩ := ih next
    refine ⟨left, by rw [List.foldlM_cons, removed, ok_bind, rest], ?_⟩
    rw [unbound_cons, ← first.spine]
    exact first.trans after

/-- Two placeholders have no binder in common, so one may be dealt with before the other. -/
private theorem unbound_perm {names names' : List String} (h : names.Perm names')
    (links : List Link) : r.unbound names links = r.unbound names' links := by
  unfold unbound
  cases r.bindings with
  | first =>
    refine h.foldl_eq' (fun name _ name' _ links => ?_) links
    by_cases same : name = name'
    · rw [same]
    · refine List.eraseP_comm fun l _ => ?_
      cases binds : l.binds r name with
      | false => exact .inl (by simp)
      | true => exact .inr (by simp [Link.not_binds_of_binds binds same])
  | all =>
    dsimp only
    congr 1
    funext l
    rw [h.any_eq]

private theorem unbound_all {names : List String} (policy : r.bindings = .all)
    (member : name ∈ names) {links : List Link} :
    ∀ l ∈ r.unbound names links, l.binds r name = false := by
  intro l left
  unfold unbound at left
  rw [policy] at left
  have none := (List.mem_filter.mp left).2
  rw [Bool.not_eq_true', List.any_eq_false] at none
  simpa using none name member

/-- A call that may go, in its place in the chain. -/
theorem links_of_mem_eligibleCalls {call : Node} (eligible : p ∈ r.eligibleCalls statement)
    (here : statement.get? p = some call) :
    statement.kind = .exprStmt ∧ ∃ xs ys, statement.links = xs ++ (p, call) :: ys := by
  obtain ⟨kind, call', linked, -⟩ := mem_eligibleCalls.mp eligible
  obtain rfl := Option.some.inj (here.symm.trans (get?_of_mem_links linked))
  exact ⟨kind, List.append_of_mem linked⟩

section Removal

variable {call inner : Node} {xs ys : List (Path × Node)}

theorem removeCall_rechained (r : ChainRemoval) (split : statement.links = xs ++ (p, call) :: ys)
    (received : call.receiver = .ok inner) :
    ∃ first, r.removeCall statement p = .ok ⟨first, r.introduces call⟩ ∧
      Rechained statement first (statement.spine.eraseIdx xs.length) := by
  have here := get?_of_mem_links (split ▸ List.mem_append_right xs List.mem_cons_self)
  obtain ⟨first, spliced, shorter⟩ := rechained_spliceReceiver split received
  refine ⟨first, ?_, shorter⟩
  rw [removeCall, locate_eq_ok.mpr here, ok_bind, spliced]
  rfl

/-- A removal succeeds, and its result is the statement without the call and the bindings. -/
theorem removeAt_rechained (r : ChainRemoval) (split : statement.links = xs ++ (p, call) :: ys)
    (received : call.receiver = .ok inner) :
    ∃ first left, r.removeCall statement p = .ok ⟨first, r.introduces call⟩ ∧
      r.removeAt statement p = .ok left ∧
      Rechained first left (r.unbound (r.introduces call) first.spine) ∧
      Rechained statement left
        (r.unbound (r.introduces call) (statement.spine.eraseIdx xs.length)) := by
  obtain ⟨first, called, shorter⟩ := removeCall_rechained r split received
  obtain ⟨left, removed, after⟩ := foldlM_removeBindings r (r.introduces call) first
  have whole := shorter.trans after
  rw [shorter.spine] at whole
  refine ⟨first, left, called, ?_, after, whole⟩
  rw [removeAt, called, ok_bind]
  exact removed

end Removal

/-- A call that may go can be removed if it has a receiver. The chain keeps all links but that of the
call and, as the rule says, the outermost binding of each of its placeholders or all of them, in
whatever order the placeholders are taken. The rest of the statement stays as it is. -/
theorem removal_takes_call_and_bindings {call inner : Node}
    (eligible : p ∈ r.eligibleCalls statement) (here : statement.get? p = some call)
    (received : call.receiver = .ok inner) :
    ∃ i first left, p = List.replicate (i + 1) 0 ∧ statement.spine[i]? = some call.link ∧
      r.removeCall statement p = .ok ⟨first, r.introduces call⟩ ∧
      r.removeAt statement p = .ok left ∧ left.kind = .exprStmt ∧
      Rechained statement left (r.unbound (r.introduces call) (statement.spine.eraseIdx i)) ∧
      (∀ names : List String, names.Perm (r.introduces call) →
        names.foldlM r.removeBindings first = .ok left) ∧
      (r.bindings = .all →
        ∀ name ∈ r.introduces call, ∀ l ∈ left.spine, l.binds r name = false) := by
  obtain ⟨kind, xs, ys, split⟩ := links_of_mem_eligibleCalls eligible here
  obtain ⟨first, left, called, removed, after, whole⟩ := removeAt_rechained r split received
  refine ⟨xs.length, first, left, path_of_links split, ?_, called, removed, whole.kind.trans kind,
    whole, ?_, ?_⟩
  · rw [spine_of_links split]
    simp
  · -- The links that are left are the same, and they tell the statement.
    intro names permuted
    obtain ⟨left', removed', after'⟩ := foldlM_removeBindings r names first
    rw [unbound_perm permuted] at after'
    rw [removed', after'.unique after]
  · intro policy name member
    rw [whole.spine]
    exact unbound_all policy member

namespace Sample

def call (receiver : Node) (name text : String) : Node where
  kind := .methodCall name
  children := [receiver, .leaf (.str text)]

def filtered : Node := call (.leaf (.variableRef "$qb")) "where" "u.a = :a AND u.b = :b"

def query : Node where
  kind := .exprStmt
  children := [call (call (call (call filtered "setParameter" "a") "setParameter" "c")
    "setParameter" "b") "setParameter" "a"]

def removal : ChainRemoval := .ofMethods ["where", "andWhere"]

end Sample

theorem sample_removal_takes_call_and_bindings :
    [0, 0, 0, 0, 0] ∈ Sample.removal.eligibleCalls Sample.query ∧
    ∃ left, Sample.removal.removeAt Sample.query [0, 0, 0, 0, 0] = .ok left ∧
      left.spine.map Link.literal? = [some "c", some "a", none] := by
  have eligible : [0, 0, 0, 0, 0] ∈ Sample.removal.eligibleCalls Sample.query := by decide +kernel
  have here : Sample.query.get? [0, 0, 0, 0, 0] = some Sample.filtered := rfl
  obtain ⟨i, first, left, depth, -, -, removed, -, after, -⟩ :=
    removal_takes_call_and_bindings eligible here rfl
  refine ⟨eligible, left, removed, ?_⟩
  obtain rfl : i = 4 := by simpa using congrArg List.length depth.symm
  rw [after.spine]
  decide +kernel

end ChainRemoval
end MutationTesting
