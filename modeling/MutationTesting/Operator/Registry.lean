import MutationTesting.Operator.Basic
import MutationTesting.Glob

/-! The operators of a run, in the order of their names, and where each of them must not run. -/
namespace MutationTesting

structure Registry where
  operators : List Operator
  /-- Patterns of scopes to leave alone, by operator name. -/
  ignore : List (String × List String)

namespace Registry

def empty : Registry := ⟨[], []⟩

/-- The registry of a list of operators: in the order of their names, and of those that share a name
the first. -/
def ofOperators (operators : List Operator) : Registry where
  operators := (operators.mergeSort fun o o' => !decide (o'.name.text < o.name.text)).eraseRepsBy
    fun o o' => o.name.text == o'.name.text
  ignore := []

def operatorNamed (chain : ChainSettings) (name : String) : Except ConfigError Operator :=
  match OperatorName.ofText? name with
  | some n => .ok (.ofName chain n)
  | none => .error (.unknownMutator name)

def unknownName? (names : List String) : Option String :=
  names.find? fun name => !(OperatorName.all.map OperatorName.text).contains name

/-- The operators a configuration enables. Names it only has patterns for are looked at last. -/
def ofSettings (s : MutatorSettings) : Except ConfigError Registry :=
  if s.enabled.isEmpty then .error .noMutators
  else do
    let operators ← s.enabled.mapM (operatorNamed s.chain)
    match unknownName? (s.ignore.map Prod.fst) with
    | some name => .error (.unknownMutator name)
    | none => return { ofOperators operators with ignore := s.ignore }

def withIgnore (r : Registry) (operator : String) (patterns : List String) : Registry :=
  { r with ignore := Ordered.put operator patterns r.ignore }

def names (r : Registry) : List String := r.operators.map fun o => o.name.text

/-- Whether an operator is switched off for a scope. Code outside any declaration is never
ignored. -/
def isIgnored (r : Registry) (operator : String) (scope : Option String) : Bool :=
  match Ordered.find? operator r.ignore, scope with
  | some patterns, some name => patterns.any fun pattern => Glob.isMatch pattern name
  | _, _ => false

end Registry
end MutationTesting
