import MutationTesting.Tree.Node

/-! The closed vocabulary of mutation operators, and the faults an operator may report. -/
namespace MutationTesting

inductive OperatorName where
  | plus
  | minus
  | multiplication
  | division
  | assignmentEqual
  | equal
  | notEqual
  | chainCallRemoval
deriving DecidableEq, Inhabited

namespace OperatorName

def text : OperatorName → String
  | plus => "Plus"
  | minus => "Minus"
  | multiplication => "Multiplication"
  | division => "Division"
  | assignmentEqual => "AssignmentEqual"
  | equal => "Equal"
  | notEqual => "NotEqual"
  | chainCallRemoval => "ChainCallRemoval"

/-- All operators, in the order in which a default configuration lists them. -/
def all : List OperatorName :=
  [plus, minus, multiplication, division, assignmentEqual, equal, notEqual, chainCallRemoval]

def ofText? (t : String) : Option OperatorName := all.find? fun n => n.text == t

theorem ofText?_text (n : OperatorName) : ofText? n.text = some n := by cases n <;> decide

end OperatorName

inductive OperatorError where
  | shape (cause : ShapeError)
  | unsupported (operator : OperatorName) (kind : String)
deriving DecidableEq

def OperatorError.message : OperatorError → String
  | shape cause => "malformed node: " ++ cause.message
  | unsupported operator kind => operator.text ++ " cannot mutate a " ++ kind ++ " node"

abbrev Proposals := List (Except OperatorError Node)

end MutationTesting
