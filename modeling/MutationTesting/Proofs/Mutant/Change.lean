import MutationTesting.Proofs.Mutant.Origin
import MutationTesting.Proofs.Operator.Proposal
import MutationTesting.Proofs.Operator.Removal
import MutationTesting.Proofs.Tree.Change

/-! A mutant is a real change of its file and a local one: its tree is of another shape, and beside
the path of the mutant nothing is changed. -/
namespace MutationTesting

namespace Operator

variable {o : Operator} {n r : Node}

/-- No operator proposes what is there already. Another operator sign shows at the node itself; a
chain may look alike link by link, but it is shorter. -/
private theorem sameShape_of_proposed (h : .ok r ∈ o.proposals n) : r.sameShape n = false := by
  rw [Bool.eq_false_iff]
  intro same
  have agrees := (Node.sameShape_iff.mp same).1.1
  cases replaces_of_proposed h with
  | @swapped op op' kind differ =>
    rw [kind] at agrees
    have equal : Kind.binary op' = .binary op := of_decide_eq_true agrees
    exact differ (by rw [Kind.binary.inj equal])
  | assigned kind =>
    rw [kind] at agrees
    cases agrees
  | shortened _ _ removed =>
    have smaller := ChainRemoval.size_lt_of_removeAt removed
    have equal := Node.size_eq_of_sameShape same
    omega

end Operator

namespace GenerationRules

/-- The node that a mutant replaces is there and can be replaced. The tree with the replacement is
of another shape than the tree of the file, and differs from it in nothing beside the path, except
that the nodes on the way to the replacement lead to it. Unless the mutant removes a call it changes
no more than the kind of the node. -/
theorem mutants_are_real_and_local {rules : GenerationRules} {f : SourceFile} :
    ∀ item ∈ rules.generate f, ∀ m, item.mutant? = some m → ∃ n tree,
      f.ast.locate m.path = .ok n ∧
      f.ast.withReplaced m.path m.replacement = .ok tree ∧
      tree.get? m.path = some m.replacement ∧
      tree.sameShape f.ast = false ∧
      Node.SameBeside m.path f.ast tree ∧
      (m.operator ≠ OperatorName.chainCallRemoval.text →
        m.replacement = { n with kind := m.replacement.kind } ∧ m.replacement.kind ≠ n.kind) := by
  intro item generated m hm
  obtain ⟨n, visited, -, -, o, -, -, named, ordinal, proposed, -⟩ := mutant_origin generated hm
  have here : f.ast.get? m.path = some n := Node.get?_of_mem_walk visited
  have proposal : .ok m.replacement ∈ o.proposals n := List.mem_of_getElem? proposed
  obtain ⟨tree, replaced⟩ := Node.exists_set?_of_get? here m.replacement
  have there : tree.get? m.path = some m.replacement := Node.get?_of_set? replaced
  refine ⟨n, tree, Node.locate_eq_ok.mpr here, Node.withReplaced_eq_ok.mpr replaced, there, ?_,
    Node.sameBeside_of_set? replaced, ?_⟩
  · rw [Bool.eq_false_iff]
    intro same
    have alike := Node.sameShape_get? same there here
    rw [Operator.sameShape_of_proposed proposal] at alike
    cases alike
  · intro other
    refine Operator.kind_of_proposed (fun chain => other ?_) proposal
    rw [named, chain]

namespace Sample

def call (name : String) (receiver : Node) (args : List Node) : Node where
  kind := .methodCall name
  children := receiver :: args

def limited : Node := call "limit" (.leaf (.variableRef "$q")) [.leaf (.int 5)]

def query : Node where
  kind := .exprStmt
  children := [call "limit" (call "bind" (call "where" (.leaf (.variableRef "$q"))
    [.leaf (.str "a = :x")]) [.leaf (.str "x"), .leaf (.int 1)]) [.leaf (.int 5)]]

def queries : SourceFile where
  path := "queries"
  ast := { kind := .block, children := [query, .leaf .null] }

def filters : GenerationRules where
  registry := ⟨[.chainRemoval {
    methods := ["where"], filterMethods := ["where"], binderMethods := ["bind"],
    bindings := .first, inScope := fun _ => true }], []⟩

end Sample

/-- The filter goes with its binding, and the statement beside stays. -/
theorem sample_mutants_are_real_and_local :
    ∃ item ∈ Sample.filters.generate Sample.queries, ∃ m, item.mutant? = some m ∧
      m.replacement = { Sample.query with children := [Sample.limited] } ∧
      ∃ tree, Sample.queries.ast.withReplaced m.path m.replacement = .ok tree ∧
        tree.sameShape Sample.queries.ast = false ∧ tree.get? [1] = some (.leaf .null) := by
  obtain ⟨item, m, generated, hm, place, change⟩ : ∃ item m,
      item ∈ Sample.filters.generate Sample.queries ∧ item.mutant? = some m ∧ m.path = [0] ∧
        m.replacement = { Sample.query with children := [Sample.limited] } := by
    refine ⟨_, _, mem_generate.mpr ⟨[0], Sample.query, ?_, _, .head _, ?_,
      mem_site.mpr ⟨0, .ok { Sample.query with children := [Sample.limited] }, ?_, rfl⟩⟩,
      Generated.mutant?_label _ _ _, rfl, rfl⟩ <;> decide +kernel
  obtain ⟨n, tree, -, replaced, -, differs, beside, -⟩ :=
    mutants_are_real_and_local item generated m hm
  refine ⟨item, generated, m, hm, change, tree, replaced, differs, ?_⟩
  rw [place] at beside
  rw [beside.apart [1] (by decide) (by decide)]
  rfl

end GenerationRules
end MutationTesting
