import Mathlib.Data.List.Basic
import MutationTesting.Mutant.Generation

/-! The stream of a file in two steps: what operators propose for the tree, and what becomes of each
proposal. Ignored scopes and coverage have no part in the first step. -/
namespace MutationTesting

structure Proposed where
  path : Path
  node : Node
  operator : OperatorName
  ordinal : Nat
  outcome : Except OperatorError Node

namespace Operator

/-- What an operator proposes for the node at a path; nothing where it does not apply. -/
def proposed (o : Operator) (path : Path) (n : Node) : List Proposed :=
  if o.applies n then (o.proposals n).zipIdx.map fun p => ⟨path, n, o.name, p.2, p.1⟩ else []

theorem place_of_mem_proposed {o : Operator} {path : Path} {n : Node} {p : Proposed}
    (h : p ∈ o.proposed path n) : p.path = path ∧ p.node = n := by
  unfold proposed at h
  split at h
  · obtain ⟨_, -, rfl⟩ := List.mem_map.mp h
    exact ⟨rfl, rfl⟩
  · cases h

theorem operator_of_mem_proposed {o : Operator} {path : Path} {n : Node} {p : Proposed}
    (h : p ∈ o.proposed path n) : p.operator = o.name := by
  unfold proposed at h
  split at h
  · obtain ⟨_, -, rfl⟩ := List.mem_map.mp h
    rfl
  · cases h

end Operator

/-- What operators propose for a tree, node by node and then operator by operator. -/
def proposedIn (operators : List Operator) (ast : Node) : List Proposed :=
  ast.walk.flatMap fun v => operators.flatMap fun o => o.proposed v.1 v.2

theorem mem_proposedIn {operators : List Operator} {ast : Node} {p : Proposed}
    (h : p ∈ proposedIn operators ast) :
    (p.path, p.node) ∈ ast.walk ∧ ∃ o ∈ operators, p ∈ o.proposed p.path p.node := by
  obtain ⟨⟨path, n⟩, visited, h⟩ := List.mem_flatMap.mp h
  obtain ⟨o, listed, h⟩ := List.mem_flatMap.mp h
  obtain ⟨rfl, rfl⟩ := Operator.place_of_mem_proposed h
  exact ⟨visited, o, listed, h⟩

private theorem flatMap_filter_eq {α β : Type} (p : α → Bool) (f : α → List β) (xs : List α) :
    (xs.filter p).flatMap f = xs.flatMap fun x => if p x then f x else [] := by
  induction xs with
  | nil => rfl
  | cons x xs ih => cases h : p x <;> simp [h, ih]

/-- The proposals of some of the operators are those proposals of all of them that bear their
names. -/
theorem filter_proposedIn (p : OperatorName → Bool) (operators : List Operator) (ast : Node) :
    (proposedIn operators ast).filter (fun x => p x.operator) =
      proposedIn (operators.filter fun o => p o.name) ast := by
  simp only [proposedIn, List.filter_flatMap, flatMap_filter_eq]
  refine List.flatMap_congr fun v _ => List.flatMap_congr fun o _ => ?_
  split
  · next chosen =>
    exact List.filter_eq_self.mpr fun x h => by rw [Operator.operator_of_mem_proposed h, chosen]
  · next left =>
    exact List.filter_eq_nil_iff.mpr fun x h => by rwa [Operator.operator_of_mem_proposed h]

namespace GenerationRules

variable {rules : GenerationRules}

def itemFor (rules : GenerationRules) (file : Location) (p : Proposed) : Generated :=
  rules.item file p.path p.node p.operator p.ordinal p.outcome

theorem generate_eq_map (rules : GenerationRules) (f : SourceFile) :
    rules.generate f = (proposedIn rules.registry.operators f.ast).map (rules.itemFor f.path) := by
  simp only [generate, atNode, proposedIn, flatMap_filter_eq, List.map_flatMap]
  refine List.flatMap_congr fun v _ => List.flatMap_congr fun o _ => ?_
  unfold Operator.proposed
  split
  · rw [site, List.map_map]
    rfl
  · rfl

theorem exists_proposed {f : SourceFile} {item : Generated} (h : item ∈ rules.generate f) :
    ∃ p ∈ proposedIn rules.registry.operators f.ast, rules.itemFor f.path p = item := by
  rw [generate_eq_map] at h
  exact List.mem_map.mp h

@[simp] theorem operator_label (n : Node) (m : Mutant) : (rules.label n m).operator = m.operator := by
  unfold label
  split
  · rfl
  · split <;> rfl

@[simp] theorem operator_itemFor (file : Location) (p : Proposed) :
    (rules.itemFor file p).operator = p.operator.text := by
  unfold itemFor item
  split
  · rw [operator_label]
  · rfl

end GenerationRules
end MutationTesting
