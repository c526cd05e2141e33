import MutationTesting.Operator.Swap
import MutationTesting.Operator.Chain

/-! Mutation operators.

An operator matches one shape of node and proposes replacements for it. It holds no state, so the
order in which operators are tried does not matter. -/
namespace MutationTesting

inductive Operator where
  | arithmetic (swap : ArithmeticSwap)
  | assignmentEqual
  | equality (swap : EqualitySwap)
  | chainRemoval (removal : ChainRemoval)

namespace Operator

def name : Operator → OperatorName
  | arithmetic swap => swap.name
  | assignmentEqual => .assignmentEqual
  | equality swap => swap.name
  | chainRemoval _ => .chainCallRemoval

/-- Whether the operator has at least one replacement for a node that does not leave its meaning
as it is. -/
def applies : Operator → Node → Bool
  | arithmetic swap => swap.applies
  | assignmentEqual => AssignmentEqual.applies
  | equality swap => swap.applies
  | chainRemoval removal => removal.applies

/-- Replacements for a node, meant for nodes to which the operator applies. -/
def proposals : Operator → Node → Proposals
  | arithmetic swap => swap.proposals
  | assignmentEqual => AssignmentEqual.proposals
  | equality swap => swap.proposals
  | chainRemoval removal => removal.proposals

/-- The operator of a name; only chain removal has settings. -/
def ofName (chain : ChainSettings) : OperatorName → Operator
  | .plus => arithmetic .plus
  | .minus => arithmetic .minus
  | .multiplication => arithmetic .multiplication
  | .division => arithmetic .division
  | .assignmentEqual => assignmentEqual
  | .equal => equality .equal
  | .notEqual => equality .notEqual
  | .chainCallRemoval => chainRemoval (.ofSettings chain)

theorem name_ofName (chain : ChainSettings) (n : OperatorName) :
    (ofName chain n).name = n := by
  cases n <;> rfl

end Operator
end MutationTesting
