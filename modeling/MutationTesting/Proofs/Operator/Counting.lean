import Mathlib.Data.List.InsertIdx
import MutationTesting.Proofs.Operator.Bindings

/-! Which calls of a chain may go, and how many are left when one is gone. -/
namespace MutationTesting

/-- An element of a filtered list, in its place in the whole list. -/
private theorem split_of_getElem?_filter {α : Type} {f : α → Bool} {xs : List α} {i : Nat} {x : α}
    (h : (xs.filter f)[i]? = some x) :
    ∃ as bs, xs = as ++ x :: bs ∧ (as.filter f).length = i ∧ f x = true := by
  induction xs generalizing i with
  | nil => cases h
  | cons y ys ih =>
    cases passes : f y with
    | false =>
      rw [List.filter_cons_of_neg (by simp [passes])] at h
      obtain ⟨as, bs, rfl, count, found⟩ := ih h
      exact ⟨y :: as, bs, rfl, by rw [List.filter_cons_of_neg (by simp [passes]), count], found⟩
    | true =>
      rw [List.filter_cons_of_pos passes] at h
      cases i with
      | zero =>
        obtain rfl : y = x := Option.some.inj h
        exact ⟨[], ys, rfl, rfl, passes⟩
      | succ i =>
        obtain ⟨as, bs, rfl, count, found⟩ := ih h
        exact ⟨y :: as, bs, rfl, by rw [List.filter_cons_of_pos passes, List.length_cons, count],
          found⟩

namespace Node

variable {statement n m c : Node} {p q base : Path}

/-- A path leads to a node from the expression of a statement by receivers alone. -/
inductive AlongReceivers (statement : Node) : Path → Node → Prop where
  | expression {c : Node} (here : statement.children[0]? = some c) :
      AlongReceivers statement [0] c
  | receiver {p : Path} {n c : Node} {slot : Nat} (outer : AlongReceivers statement p n)
      (edge : n.kind.receiverSlot? = some slot) (here : n.children[slot]? = some c) :
      AlongReceivers statement (p.child slot) c

private theorem alongReceivers_of_mem_linksFrom (outer : statement.AlongReceivers base n)
    (h : (q, m) ∈ n.linksFrom base) : statement.AlongReceivers q m := by
  induction n using receiver_induction generalizing base with
  | last n last =>
    rw [linksFrom_of_last last, List.mem_singleton] at h
    obtain ⟨rfl, rfl⟩ := Prod.mk.inj h
    exact outer
  | outer n r received ih =>
    rw [linksFrom_of_receiver received, List.mem_cons] at h
    rcases h with same | inner
    · obtain ⟨rfl, rfl⟩ := Prod.mk.inj same
      exact outer
    · obtain ⟨edge, here⟩ := receiver_eq_ok_iff.mp received
      exact ih (.receiver outer edge here) inner

private theorem self_mem_linksFrom (n : Node) (base : Path) : (base, n) ∈ n.linksFrom base := by
  rcases n.isLast_or_receiver with last | ⟨r, received⟩
  · rw [linksFrom_of_last last]
    exact List.mem_cons_self
  · rw [linksFrom_of_receiver received]
    exact List.mem_cons_self

/-- With a link its receiver is met. -/
private theorem receiver_mem_linksFrom (received : m.receiver = .ok c)
    (h : (q, m) ∈ n.linksFrom base) : (q.child 0, c) ∈ n.linksFrom base := by
  induction n using receiver_induction generalizing base with
  | last n last =>
    rw [linksFrom_of_last last, List.mem_singleton] at h
    obtain ⟨rfl, rfl⟩ := Prod.mk.inj h
    exact absurd received (last c)
  | outer n r inner ih =>
    rw [linksFrom_of_receiver inner, List.mem_cons] at h ⊢
    rcases h with same | deeper
    · obtain ⟨rfl, rfl⟩ := Prod.mk.inj same
      obtain rfl : c = r := Except.ok.inj (received.symm.trans inner)
      exact .inr (self_mem_linksFrom c _)
    · exact .inr (ih deeper)

/-- The walk along a chain meets all that receivers lead to, and nothing else. -/
private theorem mem_links_iff : (p, n) ∈ statement.links ↔ statement.AlongReceivers p n := by
  constructor
  · intro h
    unfold links at h
    split at h
    · cases h
    · next c cs children =>
      exact alongReceivers_of_mem_linksFrom (.expression (by rw [children]; rfl)) h
  · intro h
    induction h with
    | @expression c here =>
      obtain ⟨k, cs, s, a⟩ := statement
      cases cs with
      | nil => cases here
      | cons d ds =>
        obtain rfl : d = c := Option.some.inj here
        exact self_mem_linksFrom d [0]
    | @receiver p n c slot outer edge here ih =>
      obtain rfl := receiverSlot?_eq_zero edge
      unfold links at ih ⊢
      cases children : statement.children with
      | nil => simp [children] at ih
      | cons d ds =>
        rw [children] at ih
        exact receiver_mem_linksFrom (receiver_eq_ok_iff.mpr ⟨edge, here⟩) ih

def calledAt (statement : Node) (p : Path) : Option (String × List Node) :=
  (statement.get? p).bind fun call => call.methodName?.map fun name => (name, call.callArgs)

private theorem calledAt_of_mem_links (h : (p, n) ∈ statement.links) :
    statement.calledAt p = n.link.methodName?.map fun name => (name, n.link.beside) := by
  rw [calledAt, get?_of_mem_links h, Option.bind_some]
  change _ = n.methodName?.map _
  cases method : n.methodName? with
  | none => rfl
  | some name => rw [link_beside (by rw [method]; rfl)]

end Node

namespace ChainRemoval

open Node

variable {r : ChainRemoval} {statement : Node} {p : Path}

private theorem isEligible_iff {call : Node} :
    r.isEligible call = true ↔ ∃ name, call.kind = .methodCall name ∧ name ∈ r.methods := by
  unfold isEligible methodName?
  split
  · next name kind => simp [kind]
  · next other =>
    simp only [Option.any_none, Bool.false_eq_true, false_iff]
    rintro ⟨name, kind, -⟩
    exact other name kind

def entries (r : ChainRemoval) (statement : Node) : List (Option (String × List Node)) :=
  (r.eligibleCalls statement).map statement.calledAt

private theorem entries_eq (kind : statement.kind = .exprStmt) :
    r.entries statement = (statement.spine.filter (Link.isEligible r)).map fun l =>
      l.methodName?.map fun name => (name, l.beside) := by
  rw [entries, eligibleCalls, if_pos kind, spine_eq, List.filter_map, List.map_map, List.map_map]
  refine List.map_congr_left fun l member => ?_
  exact calledAt_of_mem_links (List.mem_filter.mp member).1

/-- The call that is taken out is the one of its number, and the other calls keep their order and
their arguments. -/
private theorem entries_removeCall {call inner : Node} {i : Nat}
    (numbered : (r.eligibleCalls statement)[i]? = some p) (here : statement.get? p = some call)
    (received : call.receiver = .ok inner) :
    ∃ first, r.removeCall statement p = .ok ⟨first, r.introduces call⟩ ∧
      r.entries first = (r.entries statement).eraseIdx i := by
  have kind := (mem_eligibleCalls.mp (List.mem_of_getElem? numbered)).1
  rw [eligibleCalls, if_pos kind, List.getElem?_map, Option.map_eq_some_iff] at numbered
  obtain ⟨⟨_, call'⟩, numbered, rfl⟩ := numbered
  obtain ⟨xs, ys, split, count, eligible⟩ := split_of_getElem?_filter numbered
  have found := get?_of_mem_links (split ▸ List.mem_append_right xs List.mem_cons_self)
  obtain rfl : call = call' := Option.some.inj (here.symm.trans found)
  obtain ⟨first, called, shorter⟩ := removeCall_rechained r split received
  refine ⟨first, called, ?_⟩
  have still : first.kind = .exprStmt := shorter.kind.trans kind
  have before : ((xs.map fun l => l.2.link).filter (Link.isEligible r)).length = i := by
    rw [List.filter_map, List.length_map]
    exact count
  rw [entries_eq still, entries_eq kind, shorter.spine, eraseIdx_of_links split,
    spine_of_links split, List.filter_append, List.filter_append,
    List.filter_cons_of_pos ((link_isEligible r call).trans eligible),
    List.eraseIdx_map, List.eraseIdx_append_of_length_le (Nat.le_of_eq before), before,
    Nat.sub_self, List.eraseIdx_cons_zero]

private theorem pairwise_eligibleCalls (r : ChainRemoval) (statement : Node) :
    (r.eligibleCalls statement).Pairwise fun p q => p.length < q.length := by
  unfold eligibleCalls
  split
  · exact (statement.pairwise_links.filter _).map _ fun _ _ deeper => deeper
  · exact .nil

/-- Only of an expression statement calls may go, and these are the calls of the allowed methods to
which the receivers lead from its expression, from the outermost on. Each makes one proposal. If the
call has a receiver it can be removed, and then the others are left as they were. -/
theorem eligible_calls_counted (r : ChainRemoval) (statement : Node) :
    (r.eligibleCalls statement ≠ [] → statement.kind = .exprStmt) ∧
    (statement.kind = .exprStmt →
      (∀ p, p ∈ r.eligibleCalls statement ↔ ∃ depth call name, p = List.replicate (depth + 1) 0 ∧
        statement.AlongReceivers p call ∧ call.kind = .methodCall name ∧ name ∈ r.methods) ∧
      r.proposals statement =
        (r.eligibleCalls statement).map fun p => (r.removeAt statement p).mapError .shape) ∧
    (r.eligibleCalls statement).Pairwise (fun p q => p.length < q.length) ∧
    ∀ i p call inner, (r.eligibleCalls statement)[i]? = some p →
      statement.get? p = some call → call.receiver = .ok inner →
      ∃ first, r.removeCall statement p = .ok ⟨first, r.introduces call⟩ ∧
        r.entries first = (r.entries statement).eraseIdx i ∧
        (r.eligibleCalls first).length + 1 = (r.eligibleCalls statement).length := by
  refine ⟨fun some_ => ?_, fun kind => ⟨fun p => ?_, ?_⟩, pairwise_eligibleCalls r statement, ?_⟩
  · obtain ⟨p, member⟩ := List.exists_mem_of_ne_nil _ some_
    exact (mem_eligibleCalls.mp member).1
  · rw [mem_eligibleCalls]
    simp only [kind, true_and, isEligible_iff, mem_links_iff]
    constructor
    · rintro ⟨call, along, name, method, allowed⟩
      obtain ⟨xs, ys, split⟩ := List.append_of_mem (mem_links_iff.mpr along)
      exact ⟨_, call, name, path_of_links split, along, method, allowed⟩
    · rintro ⟨-, call, name, -, along, method, allowed⟩
      exact ⟨call, along, name, method, allowed⟩
  · rw [proposals, if_pos kind]
  · intro i p call inner numbered here received
    obtain ⟨first, called, erased⟩ := entries_removeCall numbered here received
    refine ⟨first, called, erased, ?_⟩
    have inside := (List.getElem?_eq_some_iff.mp numbered).1
    have lengths := congrArg List.length erased
    rw [entries, entries, List.length_map, List.length_eraseIdx, List.length_map, if_pos inside]
      at lengths
    omega

/-- Of a filter and four bindings the second binding is removed. -/
theorem sample_eligible_calls_counted :
    let r := ChainRemoval.ofMethods ["where", "setParameter"]
    Sample.query.kind = .exprStmt ∧ (r.eligibleCalls Sample.query)[1]? = some [0, 0] ∧
    ∃ first, r.removeCall Sample.query [0, 0] = .ok ⟨first, []⟩ ∧
      r.entries first = (r.entries Sample.query).eraseIdx 1 ∧
      (r.eligibleCalls first).length = 4 := by
  intro r
  have numbered : (r.eligibleCalls Sample.query)[1]? = some [0, 0] := by decide +kernel
  obtain ⟨-, -, -, erased⟩ := eligible_calls_counted r Sample.query
  obtain ⟨first, called, others, fewer⟩ := erased 1 [0, 0] _ _ numbered rfl rfl
  have whole : (r.eligibleCalls Sample.query).length = 5 := by decide +kernel
  exact ⟨rfl, numbered, first, called, others, by omega⟩

end ChainRemoval
end MutationTesting
