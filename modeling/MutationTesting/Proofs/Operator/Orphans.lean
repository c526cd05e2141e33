import MutationTesting.Proofs.Operator.Bindings
import MutationTesting.Proofs.Operator.Placeholder

/-! When the removal of a call takes out no binding but those of placeholders that nobody mentions
any more. -/
namespace MutationTesting

open Node

namespace ChainRemoval

variable {r : ChainRemoval} {statement left call : Node} {name : String} {p : Path}

private theorem nodup_introduces (r : ChainRemoval) (call : Node) : (r.introduces call).Nodup := by
  unfold introduces
  split
  · split
    · exact nodup_placeholderNames _
    · exact .nil
  · exact .nil

/-- Of a placeholder whose bindings are taken out, all bindings go or one. -/
private theorem countP_unbound {names : List String} (distinct : names.Nodup) (links : List Link) :
    (r.unbound names links).countP (Link.binds r name) =
      if name ∈ names then
        match r.bindings with
        | .first => links.countP (Link.binds r name) - 1
        | .all => 0
      else links.countP (Link.binds r name) := by
  unfold unbound
  cases r.bindings with
  | first =>
    dsimp only
    induction names generalizing links with
    | nil => rfl
    | cons other names ih =>
      obtain ⟨fresh, distinct⟩ := List.nodup_cons.mp distinct
      rw [List.foldl_cons, ih distinct]
      by_cases same : other = name
      · subst same
        rw [if_neg fresh, countP_eraseP, if_pos List.mem_cons_self]
      · rw [countP_eraseP_of_ne fun l binds => Link.not_binds_of_binds binds same]
        simp only [List.mem_cons, Ne.symm same, false_or]
  | all =>
    dsimp only
    rw [List.countP_filter]
    split
    · next member =>
      refine List.countP_eq_zero.mpr fun l _ both => ?_
      simp only [Bool.and_eq_true, Bool.not_eq_true', List.any_eq_false] at both
      exact both.2 name member both.1
    · next absent =>
      refine List.countP_congr fun l _ => ?_
      simp only [Bool.and_eq_true, Bool.not_eq_true', List.any_eq_false, and_iff_left_iff_imp]
      intro binds other member
      have differ : name ≠ other := fun same => absent (same ▸ member)
      simp [Link.not_binds_of_binds binds differ]

def otherBinders (r : ChainRemoval) (statement : Node) (p : Path) (name : String) :
    List (Path × Node) :=
  statement.links.filter fun l => l.1 != p && r.binds name l.2

def Mentions (r : ChainRemoval) (statement : Node) (name : String) : Prop :=
  ∃ l ∈ statement.links, name ∈ r.introduces l.2

def Bound (r : ChainRemoval) (statement : Node) (name : String) : Prop :=
  ∃ l ∈ statement.links, r.binds name l.2 = true

/-- A placeholder that is still mentioned stays bound if a call other than the one at a path bound
it: all that is missing of its bindings are those that nobody needs. -/
def OnlyOrphansGo (r : ChainRemoval) (statement : Node) (p : Path) (left : Node) : Prop :=
  ∀ name, r.Mentions left name → r.otherBinders statement p name ≠ [] → r.Bound left name

private theorem bound_iff :
    r.Bound statement name ↔ 0 < statement.spine.countP (Link.binds r name) := by
  rw [Bound, spine_eq, List.countP_map, List.countP_pos_iff]
  simp only [Function.comp_apply, link_binds]

/-- The other binders are those in what is left of the spine without the call. -/
private theorem length_otherBinders {xs ys : List (Path × Node)}
    (split : statement.links = xs ++ (p, call) :: ys) :
    (r.otherBinders statement p name).length =
      (statement.spine.eraseIdx xs.length).countP (Link.binds r name) := by
  have apart := statement.pairwise_links
  rw [split, List.pairwise_append, List.pairwise_cons] at apart
  obtain ⟨-, ⟨inner, -⟩, outer⟩ := apart
  have elsewhere : ∀ l ∈ xs ++ ys, (l.1 != p && r.binds name l.2) = l.2.link.binds r name := by
    intro l member
    have differ : l.1 ≠ p := by
      rintro rfl
      rcases List.mem_append.mp member with before | behind
      · exact Nat.lt_irrefl _ (outer l before (l.1, call) List.mem_cons_self)
      · exact Nat.lt_irrefl _ (inner l behind)
    rw [link_binds, bne_iff_ne.mpr differ, Bool.true_and]
  rw [otherBinders, eraseIdx_of_links split, ← List.map_append, List.countP_map,
    List.countP_eq_length_filter, split, List.filter_append, List.filter_cons_of_neg (by simp),
    ← List.filter_append, List.filter_congr elsewhere]
  rfl

/-- A removal takes out no binding of a placeholder that is still mentioned exactly if each
placeholder of the removed filter that is still mentioned is not bound beside it, or is bound twice
and only one binding goes. -/
theorem onlyOrphansGo_iff (eligible : p ∈ r.eligibleCalls statement)
    (here : statement.get? p = some call) (removed : r.removeAt statement p = .ok left) :
    r.OnlyOrphansGo statement p left ↔
      ∀ name ∈ r.introduces call, r.Mentions left name → r.otherBinders statement p name ≠ [] →
        r.bindings = .first ∧ 2 ≤ (r.otherBinders statement p name).length := by
  obtain ⟨-, xs, ys, split⟩ := links_of_mem_eligibleCalls eligible here
  -- The removal has succeeded, so the call has a receiver.
  obtain ⟨first, spliced, -⟩ := exists_splice_of_removeAt removed
  obtain ⟨target, located, spliced⟩ := bind_eq_ok.mp spliced
  obtain rfl := Option.some.inj (here.symm.trans (locate_eq_ok.mp located))
  obtain ⟨inner, received, -⟩ := bind_eq_ok.mp spliced
  obtain ⟨-, left', -, removed', -, whole⟩ := removeAt_rechained r split received
  obtain rfl := Except.ok.inj (removed.symm.trans removed')
  have bound (name : String) : r.Bound left name ↔
      0 < if name ∈ r.introduces call then
          match r.bindings with
          | .first => (r.otherBinders statement p name).length - 1
          | .all => 0
        else (r.otherBinders statement p name).length := by
    rw [bound_iff, whole.spine, countP_unbound (nodup_introduces r call), length_otherBinders split]
  constructor
  · intro kept name introduced mentioned others
    have still := (bound name).mp (kept name mentioned others)
    rw [if_pos introduced] at still
    cases policy : r.bindings with
    | first =>
      rw [policy] at still
      exact ⟨rfl, by dsimp only at still; omega⟩
    | all =>
      rw [policy] at still
      exact absurd still (Nat.lt_irrefl 0)
  · intro spared name mentioned others
    rw [bound]
    split
    · next introduced =>
      obtain ⟨policy, two⟩ := spared name introduced mentioned others
      rw [policy]
      dsimp only
      omega
    · exact List.length_pos_iff.mpr others

namespace Sample

def byId : Node := Sample.call (.leaf (.variableRef "$qb")) "where" "u.id = :id"

def byIdTwice : Node := Sample.call byId "andWhere" "u.boss <> :id"

/-- A chain with a call behind it for each value that binds the placeholder to the value. -/
def bound (chain : Node) (values : List Int64) : Node where
  kind := .exprStmt
  children := [values.foldl
    (fun chain value => {
      kind := .methodCall "setParameter"
      children := [chain, .leaf (.str "id"), .leaf (.int value)] }) chain]

end Sample

/-- Of two bindings one goes with the second filter, and the first filter keeps the other. -/
theorem sample_onlyOrphansGo :
    Sample.removal.removeAt (Sample.bound Sample.byIdTwice [1, 2]) [0, 0, 0] =
      .ok (Sample.bound Sample.byId [1]) ∧
    Sample.removal.OnlyOrphansGo (Sample.bound Sample.byIdTwice [1, 2]) [0, 0, 0]
      (Sample.bound Sample.byId [1]) := by
  have removed := toOption_eq_some.mp (show
    (Sample.removal.removeAt (Sample.bound Sample.byIdTwice [1, 2]) [0, 0, 0]).toOption =
      some (Sample.bound Sample.byId [1]) by decide +kernel)
  have here : (Sample.bound Sample.byIdTwice [1, 2]).get? [0, 0, 0] = some Sample.byIdTwice := rfl
  refine ⟨removed, (onlyOrphansGo_iff (by decide +kernel) here removed).mpr
    fun name introduced _ _ => ?_⟩
  have only : Sample.removal.introduces Sample.byIdTwice = ["id"] := by decide +kernel
  rw [only, List.mem_singleton] at introduced
  subst introduced
  decide +kernel

/-- The one binding goes with the second filter, although the first filter still needs it. -/
theorem removal_takes_binding_in_use :
    [0, 0] ∈ Sample.removal.eligibleCalls (Sample.bound Sample.byIdTwice [1]) ∧
    Sample.removal.removeAt (Sample.bound Sample.byIdTwice [1]) [0, 0] =
      .ok (Sample.bound Sample.byId []) ∧
    ¬ Sample.removal.OnlyOrphansGo (Sample.bound Sample.byIdTwice [1]) [0, 0]
      (Sample.bound Sample.byId []) := by
  have removed := toOption_eq_some.mp (show
    (Sample.removal.removeAt (Sample.bound Sample.byIdTwice [1]) [0, 0]).toOption =
      some (Sample.bound Sample.byId []) by decide +kernel)
  refine ⟨by decide +kernel, removed, fun kept => ?_⟩
  have mentioned : Sample.removal.Mentions (Sample.bound Sample.byId []) "id" :=
    ⟨([0], Sample.byId), by decide +kernel, by decide +kernel⟩
  obtain ⟨l, linked, binds⟩ := kept "id" mentioned (by decide +kernel)
  have none : ∀ l ∈ (Sample.bound Sample.byId []).links, Sample.removal.binds "id" l.2 = false := by
    decide +kernel
  exact Bool.false_ne_true ((none l linked).symm.trans binds)

end ChainRemoval
end MutationTesting
