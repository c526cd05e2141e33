import MutationTesting.Proofs.Mutant.Stream
import MutationTesting.Proofs.Operator.Registry

/-! Operators do not interact: what one of them contributes to a stream is what it would have made
alone. -/
namespace MutationTesting

namespace GenerationRules

/-- The items of one operator are the stream of a registry that has kept no other. -/
private theorem generate_filter_operator (rules : GenerationRules) (f : SourceFile)
    (name : String) :
    (rules.generate f).filter (fun item => item.operator == name) =
      generate { rules with
        registry.operators := rules.registry.operators.filter fun o => o.name.text == name } f := by
  rw [generate_eq_map, generate_eq_map, List.filter_map]
  simp only [Function.comp_def, operator_itemFor]
  rw [filter_proposedIn (fun n => n.text == name)]
  rfl

/-- For every operator that a configuration enables, its items in the stream of a file are the whole
stream that it makes alone, and the stream depends on the names that are enabled and not on how they
are listed. Ignored scopes and coverage are the same throughout. -/
theorem operators_do_not_interact {s : MutatorSettings} {r : Registry}
    (accepted : Registry.ofSettings s = .ok r) (coverage : Option Coverage) (onlyCovered : Bool)
    (f : SourceFile) :
    (∀ name ∈ s.enabled, ∃ alone, Registry.ofSettings { s with enabled := [name] } = .ok alone ∧
      (generate ⟨r, coverage, onlyCovered⟩ f).filter (fun item => item.operator == name) =
        generate ⟨alone, coverage, onlyCovered⟩ f) ∧
    ∀ enabled, (∀ name, name ∈ enabled ↔ name ∈ s.enabled) →
      ∃ again, Registry.ofSettings { s with enabled } = .ok again ∧
        generate ⟨again, coverage, onlyCovered⟩ f = generate ⟨r, coverage, onlyCovered⟩ f := by
  obtain ⟨some_, known, rfl⟩ := Registry.ofSettings_eq_ok.mp accepted
  have known_of_mem {name : String} (h : name ∈ s.enabled ∨ name ∈ s.ignore.map Prod.fst) :
      ∃ n : OperatorName, n.text = name := known name (List.mem_append.mpr h)
  constructor
  · intro name named
    refine ⟨_, Registry.ofSettings_eq_ok.mpr ⟨List.cons_ne_nil _ _, fun other h => ?_, rfl⟩, ?_⟩
    · rcases List.mem_append.mp h with one | ignored
      · exact known_of_mem (.inl (List.mem_singleton.mp one ▸ named))
      · exact known_of_mem (.inr ignored)
    · rw [generate_filter_operator]
      dsimp only
      rw [Registry.operatorsNamed_filter_eq named]
  · intro enabled same
    refine ⟨_, Registry.ofSettings_eq_ok.mpr ⟨fun none_ => ?_, fun other h => ?_, rfl⟩, ?_⟩
    · obtain ⟨name, named⟩ := List.exists_mem_of_ne_nil _ some_
      exact List.ne_nil_of_mem ((same name).mpr named) none_
    · rcases List.mem_append.mp h with listed | ignored
      · exact known_of_mem (.inl ((same other).mp listed))
      · exact known_of_mem (.inr ignored)
    · rw [Registry.operatorsNamed_congr same]

namespace Sample

def repeating : MutatorSettings where
  enabled := ["Plus", "Multiplication", "Plus"]
  ignore := [("Plus", ["Legacy*::*"])]

/-- The statement `$a * $b + $c;`. -/
def total : SourceFile where
  path := "total"
  ast := { kind := .exprStmt, children := [{ kind := .binary .plus, children := [
    { kind := .binary .mul, children := [.leaf (.variableRef "$a"), .leaf (.variableRef "$b")] },
    .leaf (.variableRef "$c")] }] }

end Sample

theorem sample_operators_do_not_interact :
    ∃ r alone again, Registry.ofSettings Sample.repeating = .ok r ∧
      Registry.ofSettings { Sample.repeating with enabled := ["Plus"] } = .ok alone ∧
      Registry.ofSettings { Sample.repeating with enabled := ["Multiplication", "Plus"] } =
        .ok again ∧
      (generate ⟨r, none, false⟩ Sample.total).filter (fun item => item.operator == "Plus") =
        generate ⟨alone, none, false⟩ Sample.total ∧
      (generate ⟨alone, none, false⟩ Sample.total).length = 1 ∧
      generate ⟨again, none, false⟩ Sample.total = generate ⟨r, none, false⟩ Sample.total := by
  obtain ⟨r, accepted⟩ : ∃ r, Registry.ofSettings Sample.repeating = .ok r := ⟨_, rfl⟩
  obtain ⟨each, listing⟩ := operators_do_not_interact accepted none false Sample.total
  obtain ⟨alone, named, same⟩ := each "Plus" (.head _)
  obtain ⟨again, listed, equal⟩ := listing ["Multiplication", "Plus"] fun name => by
    grind [Sample.repeating]
  refine ⟨r, alone, again, accepted, named, listed, same, ?_, equal⟩
  obtain ⟨-, -, rfl⟩ := Registry.ofSettings_eq_ok.mp named
  rfl

end GenerationRules
end MutationTesting
