import Mathlib.Data.List.Basic
import MutationTesting.Operator.Registry
import MutationTesting.Proofs.Except
import MutationTesting.Proofs.Ordered

/-! The operators that a configuration enables are those it names, however it lists them. -/
namespace MutationTesting

private theorem OperatorName.ofText?_eq_some {t : String} {n : OperatorName} :
    OperatorName.ofText? t = some n ↔ n.text = t := by
  constructor
  · intro h
    rw [OperatorName.ofText?] at h
    exact beq_iff_eq.mp (List.find?_some (p := fun n : OperatorName => n.text == t) h)
  · rintro rfl
    exact OperatorName.ofText?_text n

theorem OperatorName.mem_all (n : OperatorName) : n ∈ OperatorName.all := by cases n <;> decide

private theorem OperatorName.contains_texts {t : String} :
    (OperatorName.all.map OperatorName.text).contains t ↔ ∃ n : OperatorName, n.text = t := by
  rw [List.contains_iff_mem, List.mem_map]
  exact exists_congr fun n => and_iff_right n.mem_all

namespace Registry

variable {chain : ChainSettings} {names names' : List String} {s : MutatorSettings} {r : Registry}

private theorem unknownName?_eq_none :
    unknownName? names = none ↔ ∀ name ∈ names, ∃ n : OperatorName, n.text = name := by
  rw [unknownName?, List.find?_eq_none]
  refine forall₂_congr fun name _ => ?_
  rw [Bool.not_eq_true', Bool.not_eq_false, OperatorName.contains_texts]

/-- A name is found in the list of all names exactly if looking it up gives an operator. -/
private theorem unknownName?_cons {name : String} : unknownName? (name :: names) =
    match OperatorName.ofText? name with
    | some _ => unknownName? names
    | none => some name := by
  rw [unknownName?, List.find?_cons]
  cases found : OperatorName.ofText? name with
  | some n =>
    have known := OperatorName.contains_texts.mpr ⟨n, OperatorName.ofText?_eq_some.mp found⟩
    rw [known, Bool.not_true, unknownName?]
  | none =>
    have unknown : (OperatorName.all.map OperatorName.text).contains name = false := by
      refine Bool.eq_false_iff.mpr fun known => ?_
      obtain ⟨n, same⟩ := OperatorName.contains_texts.mp known
      rw [OperatorName.ofText?_eq_some.mpr same] at found
      cases found
    rw [unknown, Bool.not_false]

private theorem unknownName?_append :
    unknownName? (names ++ names') = (unknownName? names).or (unknownName? names') :=
  List.find?_append

def called (chain : ChainSettings) (names : List String) : List Operator :=
  names.filterMap fun name => (OperatorName.ofText? name).map (Operator.ofName chain)

/-- The operators of a list of names, in the order of the names and each of them once. -/
def operatorsNamed (chain : ChainSettings) (names : List String) : List Operator :=
  called chain (Ordered.ofList names)

/-- Looking names up one after the other stops at the first that names nothing. -/
private theorem mapM_operatorNamed : ∀ names : List String, names.mapM (operatorNamed chain) =
    match unknownName? names with
    | some name => .error (.unknownMutator name)
    | none => .ok (called chain names)
  | [] => rfl
  | name :: names => by
    rw [List.mapM_cons, operatorNamed, unknownName?_cons, called, List.filterMap_cons, ← called]
    cases OperatorName.ofText? name with
    | none => rfl
    | some n =>
      rw [mapM_operatorNamed names, ok_bind]
      cases unknownName? names with
      | none => rfl
      | some unknown => rfl

private theorem names_called (known : ∀ name ∈ names, ∃ n : OperatorName, n.text = name) :
    (called chain names).map (fun o => o.name.text) = names := by
  have each : ∀ name ∈ names,
      ((OperatorName.ofText? name).map (Operator.ofName chain)).map (fun o => o.name.text) =
        some name := by
    intro name listed
    obtain ⟨n, rfl⟩ := known name listed
    rw [OperatorName.ofText?_text, Option.map_some, Option.map_some, Operator.name_ofName]
  rw [called, List.map_filterMap, List.filterMap_congr each, List.filterMap_some]

/-- The operators bear the names they were asked for by, in order and each once. -/
private theorem names_operatorsNamed (known : ∀ name ∈ names, ∃ n : OperatorName, n.text = name) :
    (operatorsNamed chain names).map (fun o => o.name.text) = Ordered.ofList names :=
  names_called fun name listed => known name (Ordered.mem_ofList.mp listed)

/-- Operators made for a configuration are told by their names. -/
private theorem called_names {operators : List Operator}
    (made : ∀ o ∈ operators, o = Operator.ofName chain o.name) :
    called chain (operators.map fun o => o.name.text) = operators := by
  have each : ∀ o ∈ operators,
      (OperatorName.ofText? o.name.text).map (Operator.ofName chain) = some o := by
    intro o listed
    rw [OperatorName.ofText?_text, Option.map_some, ← made o listed]
  rw [called, List.filterMap_map]
  exact (List.filterMap_congr each).trans List.filterMap_some

private theorem eq_ofName_of_mem_called {o : Operator} (listed : o ∈ called chain names) :
    o = Operator.ofName chain o.name := by
  obtain ⟨name, -, found⟩ := List.mem_filterMap.mp listed
  obtain ⟨n, -, rfl⟩ := Option.map_eq_some_iff.mp found
  rw [Operator.name_ofName]

/-- Sorting the operators that are called, and leaving out repeated ones, comes to sorting the names
and leaving out repeated ones. -/
private theorem operators_ofOperators (known : ∀ name ∈ names, ∃ n : OperatorName, n.text = name) :
    (ofOperators (called chain names)).operators = operatorsNamed chain names := by
  have made : ∀ o ∈ (ofOperators (called chain names)).operators,
      o = Operator.ofName chain o.name := fun o left =>
    eq_ofName_of_mem_called (List.mem_mergeSort.mp ((Ordered.eraseRepsBy_sublist _).subset left))
  rw [← called_names made, ofOperators, Ordered.map_eraseRepsBy_mergeSort, names_called known,
    operatorsNamed]

/-- The names are looked up as if they stood in one list. -/
theorem ofSettings_eq : ofSettings s =
    if s.enabled.isEmpty then .error .noMutators
    else
      match unknownName? (s.enabled ++ s.ignore.map Prod.fst) with
      | some name => .error (.unknownMutator name)
      | none => .ok { operators := operatorsNamed s.chain s.enabled, ignore := s.ignore } := by
  refine if_congr .rfl rfl ?_
  rw [mapM_operatorNamed, unknownName?_append]
  cases enabled : unknownName? s.enabled with
  | some name => rfl
  | none =>
    rw [ok_bind, Option.none_or, ← operators_ofOperators (unknownName?_eq_none.mp enabled)]
    rfl

/-- A configuration is accepted when it enables something and knows every name it mentions. -/
theorem ofSettings_eq_ok :
    ofSettings s = .ok r ↔ s.enabled ≠ [] ∧
      (∀ name ∈ s.enabled ++ s.ignore.map Prod.fst, ∃ n : OperatorName, n.text = name) ∧
      r = { operators := operatorsNamed s.chain s.enabled, ignore := s.ignore } := by
  rw [← unknownName?_eq_none, ofSettings_eq]
  by_cases empty : s.enabled = []
  · simp [empty]
  · rw [if_neg (by simpa using empty)]
    cases unknownName? (s.enabled ++ s.ignore.map Prod.fst) with
    | some name => simp
    | none => simp [empty, eq_comm]

theorem names_of_ofSettings (accepted : ofSettings s = .ok r) :
    r.names = Ordered.ofList s.enabled := by
  obtain ⟨-, known, rfl⟩ := ofSettings_eq_ok.mp accepted
  exact names_operatorsNamed fun name named => known name (List.mem_append_left _ named)

/-- The operators of a configuration stand in the order of their names, each name once. -/
theorem pairwise_names (accepted : ofSettings s = .ok r) :
    r.operators.Pairwise fun o o' => o.name.text < o'.name.text := by
  rw [← List.pairwise_map (f := fun o : Operator => o.name.text), ← names,
    names_of_ofSettings accepted]
  exact Ordered.pairwise_ofList _

/-- Neither the order of names nor repeated ones make a difference. -/
theorem operatorsNamed_congr (same : ∀ name, name ∈ names ↔ name ∈ names') :
    operatorsNamed chain names = operatorsNamed chain names' := by
  rw [operatorsNamed, Ordered.ofList_congr same, operatorsNamed]

private theorem operatorsNamed_filter (p : String → Bool) :
    (operatorsNamed chain names).filter (fun o => p o.name.text) =
      operatorsNamed chain (names.filter p) := by
  rw [operatorsNamed, operatorsNamed, ← Ordered.filter_ofList, called, called,
    List.filter_filterMap, List.filterMap_filter]
  refine List.filterMap_congr fun name _ => ?_
  cases known : OperatorName.ofText? name with
  | none => simp
  | some n =>
    obtain rfl := OperatorName.ofText?_eq_some.mp known
    simp [Option.filter, Operator.name_ofName]

/-- Of the operators that are named, the one with a given name is what naming it alone enables. -/
theorem operatorsNamed_filter_eq {name : String} (named : name ∈ names) :
    (operatorsNamed chain names).filter (fun o => o.name.text == name) =
      operatorsNamed chain [name] := by
  rw [operatorsNamed_filter (· == name)]
  refine operatorsNamed_congr fun other => ?_
  rw [List.mem_filter, beq_iff_eq, List.mem_singleton]
  exact ⟨fun h => h.2, fun h => ⟨h ▸ named, h⟩⟩

end Registry
end MutationTesting
