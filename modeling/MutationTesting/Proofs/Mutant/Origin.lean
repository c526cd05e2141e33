import MutationTesting.Proofs.Mutant.Stream
import MutationTesting.Proofs.Tree.Walk
import MutationTesting.Scheduler.History

/-! Where the items of a stream come from: a node of the walk, an operator that applies to it and
one of the operator's proposals. -/
namespace MutationTesting

namespace Generated

@[simp] theorem mutant?_label (rules : GenerationRules) (n : Node) (m : Mutant) :
    (rules.label n m).mutant? = some m := by
  unfold GenerationRules.label
  split
  · rfl
  · split <;> rfl

end Generated

namespace GenerationRules

variable {rules : GenerationRules}

theorem mem_site {file : Location} {path : Path} {n : Node} {o : Operator} {item : Generated} :
    item ∈ rules.site file path n o ↔
      ∃ ordinal proposal, (o.proposals n)[ordinal]? = some proposal ∧
        item = rules.item file path n o.name ordinal proposal := by
  rw [site, List.mem_map]
  constructor
  · rintro ⟨⟨proposal, ordinal⟩, member, rfl⟩
    exact ⟨ordinal, proposal, List.mem_zipIdx_iff_getElem?.mp member, rfl⟩
  · rintro ⟨ordinal, proposal, here, rfl⟩
    exact ⟨(proposal, ordinal), List.mem_zipIdx_iff_getElem?.mpr here, rfl⟩

theorem mem_generate {f : SourceFile} {item : Generated} :
    item ∈ rules.generate f ↔
      ∃ path n, (path, n) ∈ f.ast.walk ∧ ∃ o ∈ rules.registry.operators, o.applies n = true ∧
        item ∈ rules.site f.path path n o := by
  simp only [generate, atNode, List.mem_flatMap, List.mem_filter, Prod.exists, and_assoc]

/-- A mutant carries its place, the name of its operator and the proposal; what becomes of it
depends on nothing but the mutant and its node. -/
theorem mutant_origin {f : SourceFile} {item : Generated} {m : Mutant}
    (h : item ∈ rules.generate f) (hm : item.mutant? = some m) :
    ∃ n, (m.path, n) ∈ f.ast.walk ∧ item = rules.label n m ∧ m.file = f.path ∧
      ∃ o ∈ rules.registry.operators, o.applies n = true ∧ m.operator = o.name.text ∧
        ∃ ordinal, (o.proposals n)[ordinal]? = some (.ok m.replacement) ∧
          m.id = mutantId f.path m.path o.name.text ordinal := by
  obtain ⟨path, n, visited, o, registered, applies, here⟩ := mem_generate.mp h
  obtain ⟨ordinal, proposal, proposed, rfl⟩ := mem_site.mp here
  cases proposal with
  | error e => simp [item, Generated.mutant?] at hm
  | ok replacement =>
    rw [item, Generated.mutant?_label] at hm
    obtain rfl := Option.some.inj hm
    exact ⟨n, visited, rfl, rfl, o, registered, applies, rfl, ordinal, proposed, rfl⟩

structure Makes (rules : GenerationRules) (file : Location) (p : Proposed) (m : Mutant) :
    Prop where
  label : rules.itemFor file p = rules.label p.node m
  replacement : p.outcome = .ok m.replacement
  id : m.id = mutantId file p.path p.operator.text p.ordinal
  operator : m.operator = p.operator.text
  place : m.file = file ∧ m.path = p.path
  tests : m.coveringTests = rules.coveringTests file p.node

theorem makes_of_itemFor {file : Location} {p : Proposed} {m : Mutant}
    (h : (rules.itemFor file p).mutant? = some m) : rules.Makes file p m := by
  obtain ⟨path, n, o, ordinal, outcome⟩ := p
  cases outcome with
  | error e => cases h
  | ok replacement =>
    obtain rfl := Option.some.inj ((Generated.mutant?_label ..).symm.trans h)
    exact ⟨rfl, rfl, rfl, rfl, ⟨rfl, rfl⟩, rfl⟩

/-- The node that a mutant replaces, and the operator whose proposal it is. -/
theorem mutant_target {f : SourceFile} {item : Generated} {m : Mutant}
    (h : item ∈ rules.generate f) (hm : item.mutant? = some m) :
    ∃ n, (m.path, n) ∈ f.ast.walk ∧ f.ast.get? m.path = some n ∧
      ∃ o : Operator, .ok m.replacement ∈ o.proposals n := by
  obtain ⟨n, visited, -, -, o, -, -, -, ordinal, proposed, -⟩ := mutant_origin h hm
  exact ⟨n, visited, Node.get?_of_mem_walk visited, o, List.mem_of_getElem? proposed⟩

end GenerationRules

namespace Scheduler

theorem mem_offers {rules : GenerationRules} {sources : List SourceFile} {o : Offer} :
    o ∈ offers rules sources ↔ o.source ∈ sources ∧ o.item ∈ rules.generate o.source := by
  simp only [offers, List.mem_flatMap, List.mem_map]
  constructor
  · rintro ⟨f, listed, item, generated, rfl⟩
    exact ⟨listed, generated⟩
  · rintro ⟨listed, generated⟩
    exact ⟨o.source, listed, o.item, generated, rfl⟩

end Scheduler
end MutationTesting
