import MutationTesting.Mutant.Basic
import MutationTesting.Operator.Registry
import MutationTesting.Source.File
import MutationTesting.Tree.Walk
import MutationTesting.Coverage

/-! The mutants of a source file.

Every node, in the order of the walk, is offered to every operator, in the order of their names.
Each replacement becomes one item, labelled by what is to happen to it. -/
namespace MutationTesting

inductive Generated where
  /-- Ready to be tried. -/
  | mutant (m : Mutant)
  /-- No test covers the node, and only covered code is tried. -/
  | notCovered (m : Mutant)
  /-- The operator is ignored in the scope of the node. -/
  | skipped (m : Mutant)
  /-- The operator failed. -/
  | fault (d : Diagnostic)

namespace Generated

def mutant? : Generated → Option Mutant
  | mutant m | notCovered m | skipped m => some m
  | fault _ => none

def diagnostic? : Generated → Option Diagnostic
  | fault d => some d
  | _ => none

def operator : Generated → String
  | mutant m | notCovered m | skipped m => m.operator
  | fault d => d.operator

end Generated

/-- What the mutants of a run are made from, beside the sources. -/
structure GenerationRules where
  registry : Registry
  coverage : Option Coverage := none
  onlyCovered : Bool := false

namespace GenerationRules

def coveringTests (rules : GenerationRules) (file : Location) (n : Node) : List TestId :=
  match rules.coverage, n.lineRange? with
  | some coverage, some (start, stop) => coverage.testsForLines file start stop
  | _, _ => []

def isUncovered (rules : GenerationRules) (file : Location) (n : Node) : Bool :=
  rules.onlyCovered && rules.coverage.isSome && (rules.coveringTests file n).isEmpty

/-- What becomes of a mutant of a node: an ignored operator comes before missing coverage. -/
def label (rules : GenerationRules) (n : Node) (m : Mutant) : Generated :=
  if rules.registry.isIgnored m.operator n.attributes.qualifiedScope? then .skipped m
  else if rules.isUncovered m.file n then .notCovered m
  else .mutant m

/-- The item for one proposal of an operator for the node at a path. -/
def item (rules : GenerationRules) (file : Location) (path : Path) (n : Node)
    (operator : OperatorName) (ordinal : Nat) : Except OperatorError Node → Generated
  | .ok replacement =>
    rules.label n {
      id := mutantId file path operator.text ordinal
      operator := operator.text
      file
      path
      replacement
      line := n.line?
      scope := n.attributes.qualifiedScope?
      coveringTests := rules.coveringTests file n }
  | .error e => .fault { file, path, operator := operator.text, message := e.message }

def site (rules : GenerationRules) (file : Location) (path : Path) (n : Node) (o : Operator) :
    List Generated :=
  (o.proposals n).zipIdx.map fun p => rules.item file path n o.name p.2 p.1

def atNode (rules : GenerationRules) (file : Location) (path : Path) (n : Node) :
    List Generated :=
  (rules.registry.operators.filter fun o => o.applies n).flatMap fun o => rules.site file path n o

/-- The items of a source file, in tree order and then in the order of the operators' names. -/
def generate (rules : GenerationRules) (source : SourceFile) : List Generated :=
  source.ast.walk.flatMap fun v => rules.atNode source.path v.1 v.2

end GenerationRules
end MutationTesting
