import MutationTesting.Number.Binary64

/-! Syntactic categories of nodes, each with the data that belongs to the node itself. -/
namespace MutationTesting

inductive BinaryOperator where
  | plus | minus | mul | div | mod | concat
  | equal | notEqual | identical | notIdentical
  | less | lessOrEqual | greater | greaterOrEqual
  | booleanAnd | booleanOr
deriving DecidableEq, Inhabited

namespace BinaryOperator

def all : List BinaryOperator :=
  [plus, minus, mul, div, mod, concat, equal, notEqual, identical, notIdentical,
    less, lessOrEqual, greater, greaterOrEqual, booleanAnd, booleanOr]

def symbol : BinaryOperator → String
  | plus => "+"
  | minus => "-"
  | mul => "*"
  | div => "/"
  | mod => "%"
  | concat => "."
  | equal => "=="
  | notEqual => "!="
  | identical => "==="
  | notIdentical => "!=="
  | less => "<"
  | lessOrEqual => "<="
  | greater => ">"
  | greaterOrEqual => ">="
  | booleanAnd => "&&"
  | booleanOr => "||"

def word : BinaryOperator → String
  | plus => "plus"
  | minus => "minus"
  | mul => "mul"
  | div => "div"
  | mod => "mod"
  | concat => "concat"
  | equal => "equal"
  | notEqual => "not_equal"
  | identical => "identical"
  | notIdentical => "not_identical"
  | less => "less"
  | lessOrEqual => "less_or_equal"
  | greater => "greater"
  | greaterOrEqual => "greater_or_equal"
  | booleanAnd => "boolean_and"
  | booleanOr => "boolean_or"

def ofWord? (w : String) : Option BinaryOperator := all.find? fun op => op.word == w

theorem mem_all (op : BinaryOperator) : op ∈ all := by cases op <;> decide

theorem ofWord?_word (op : BinaryOperator) : ofWord? op.word = some op := by cases op <;> decide

end BinaryOperator

/-- What a node is. Sub-expressions are its children; their layout goes by kind:

* `methodCall`: the receiver, then the arguments
* `functionCall`, `staticCall`: the arguments
* `propertyFetch`: the receiver
* `arrayAccess`: the receiver, then the index
* `binary`, `assign`, `compoundAssign`: left, then right
* `negate`, `exprStmt`: the operand
* `conditional`: the condition, the block, and possibly a block for the other case
* `returnStmt`: possibly a value
* `other`: any children, walked but never rewritten -/
inductive Kind where
  | module
  | classDecl (name : String)
  | method (name : String)
  | block
  | conditional
  | exprStmt
  | returnStmt
  | methodCall (name : String)
  | functionCall (name : String)
  | staticCall (scope name : String)
  | propertyFetch (name : String)
  | staticPropertyFetch (scope name : String)
  | arrayAccess
  | variableRef (name : String)
  | constFetch (name : String)
  | classConstFetch (scope name : String)
  | binary (op : BinaryOperator)
  | assign
  | compoundAssign (op : BinaryOperator)
  | negate
  | int (value : Int64)
  | float (value : Binary64)
  | str (value : String)
  | bool (value : Bool)
  | null
  | other
deriving DecidableEq, Inhabited

namespace Kind

/-- The word for the kind in tree documents and in messages. -/
def label : Kind → String
  | module => "module"
  | classDecl _ => "class"
  | method _ => "method"
  | block => "block"
  | conditional => "if"
  | exprStmt => "expression_stmt"
  | returnStmt => "return"
  | methodCall _ => "method_call"
  | functionCall _ => "function_call"
  | staticCall _ _ => "static_call"
  | propertyFetch _ => "property_fetch"
  | staticPropertyFetch _ _ => "static_property_fetch"
  | arrayAccess => "array_access"
  | variableRef _ => "variable"
  | constFetch _ => "const_fetch"
  | classConstFetch _ _ => "class_const_fetch"
  | binary _ => "binary_op"
  | assign => "assign"
  | compoundAssign _ => "compound_assign"
  | negate => "unary_minus"
  | int _ => "int"
  | float _ => "float"
  | str _ => "str"
  | bool _ => "bool"
  | null => "null"
  | other => "other"

/-- Labels in the order of the kinds; a document may name a kind by its place here. -/
def labels : List String :=
  ["module", "class", "method", "block", "if", "expression_stmt", "return", "method_call",
    "function_call", "static_call", "property_fetch", "static_property_fetch", "array_access",
    "variable", "const_fetch", "class_const_fetch", "binary_op", "assign", "compound_assign",
    "unary_minus", "int", "float", "str", "bool", "null", "other"]

def operator? : Kind → Option BinaryOperator
  | binary op | compoundAssign op => some op
  | _ => none

/-- The place of the one receiver child, for kinds that have one. Fluent chains run along it. -/
def receiverSlot? : Kind → Option Nat
  | methodCall _ | propertyFetch _ | arrayAccess => some 0
  | _ => none

def isAssignable : Kind → Bool
  | variableRef _ | propertyFetch _ | staticPropertyFetch _ _ | arrayAccess => true
  | _ => false

def isCall : Kind → Bool
  | methodCall _ | functionCall _ | staticCall _ _ => true
  | _ => false

/-- The number of children of the kinds that fix it. -/
def arity? : Kind → Option Nat
  | binary _ | assign | compoundAssign _ | arrayAccess => some 2
  | negate | exprStmt | propertyFetch _ => some 1
  | variableRef _ | constFetch _ | classConstFetch _ _ | staticPropertyFetch _ _
  | int _ | float _ | str _ | bool _ | null => some 0
  | _ => none

/-- Kinds whose children stand one level deeper than the node itself. -/
def opensBody : Kind → Bool
  | classDecl _ | method _ | block => true
  | _ => false

/-- Operator expressions that need parentheses as operands. -/
def bindsLoosely : Kind → Bool
  | binary _ | assign | compoundAssign _ => true
  | _ => false

/-- Equality with floating point values compared as numbers, so that the two zeros agree. -/
def agrees : Kind → Kind → Bool
  | float x, float y => x.numEq y
  | a, b => decide (a = b)

end Kind
end MutationTesting
