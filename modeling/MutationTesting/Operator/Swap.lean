import MutationTesting.Operator.Name

/-! Operators that exchange one binary operator for another.

Arithmetic swaps leave alone those operands for which both operators compute the same. -/
namespace MutationTesting

/-- Numeric value of an integer or floating point literal under any number of minus signs. -/
def literalValue? : Node → Option Binary64
  | ⟨.int value, _, _, _⟩ => some (.ofInt value.toInt)
  | ⟨.float value, _, _, _⟩ => some value
  | ⟨.negate, c :: _, _, _⟩ => (literalValue? c).map Binary64.neg
  | _ => none

def Binary64.one : Binary64 := .ofNat 1

def isZeroLiteral (n : Node) : Bool := (literalValue? n).any fun v => v.numEq .zero

def isUnitLiteral (n : Node) : Bool := (literalValue? n).any fun v => v.abs.numEq .one

inductive ArithmeticSwap where
  | plus
  | minus
  | multiplication
  | division
deriving DecidableEq

namespace ArithmeticSwap

def name : ArithmeticSwap → OperatorName
  | plus => .plus
  | minus => .minus
  | multiplication => .multiplication
  | division => .division

def source : ArithmeticSwap → BinaryOperator
  | plus => .plus
  | minus => .minus
  | multiplication => .mul
  | division => .div

def target : ArithmeticSwap → BinaryOperator
  | plus => .minus
  | minus => .plus
  | multiplication => .div
  | division => .mul

/-- Operands for which the swapped expression computes the same: adding or taking away zero,
multiplying by a unit on either side, dividing by a unit. -/
def isEquivalent : ArithmeticSwap → Node → Node → Bool
  | plus, _, right | minus, _, right => isZeroLiteral right
  | multiplication, left, right => isUnitLiteral left || isUnitLiteral right
  | division, _, right => isUnitLiteral right

def applies (s : ArithmeticSwap) (n : Node) : Bool :=
  match n.kind, n.children with
  | .binary op, [left, right] => op == s.source && !s.isEquivalent left right
  | _, _ => false

def proposals (s : ArithmeticSwap) (n : Node) : Proposals :=
  if n.kind = .binary s.source then
    match n.checkShape with
    | .ok _ => [.ok { n with kind := .binary s.target }]
    | .error e => [.error (.shape e)]
  else [.error (.unsupported s.name n.kind.label)]

end ArithmeticSwap

inductive EqualitySwap where
  | equal
  | notEqual
deriving DecidableEq

namespace EqualitySwap

def name : EqualitySwap → OperatorName
  | equal => .equal
  | notEqual => .notEqual

def source : EqualitySwap → BinaryOperator
  | equal => .equal
  | notEqual => .notEqual

def target : EqualitySwap → BinaryOperator
  | equal => .notEqual
  | notEqual => .equal

def applies (s : EqualitySwap) (n : Node) : Bool :=
  n.kind == .binary s.source && n.children.length == 2

def proposals (s : EqualitySwap) (n : Node) : Proposals :=
  if s.applies n then [.ok { n with kind := .binary s.target }]
  else [.error (.unsupported s.name n.kind.label)]

end EqualitySwap

/-! The comparison `a == b` written as the assignment `a = b`. -/
namespace AssignmentEqual

/-- The left operand has to be something that can be assigned to. -/
def applies (n : Node) : Bool :=
  match n.kind, n.children with
  | .binary .equal, [left, _] => left.kind.isAssignable
  | _, _ => false

def proposals (n : Node) : Proposals :=
  if n.kind = .binary .equal then
    match n.checkShape with
    | .ok _ => [.ok { n with kind := .assign }]
    | .error e => [.error (.shape e)]
  else [.error (.unsupported .assignmentEqual n.kind.label)]

end AssignmentEqual
end MutationTesting
