import MutationTesting.Tree.Node
import MutationTesting.Text.Bytes
import MutationTesting.Number.Decimal

/-! Source text of a tree.

`layout` says how one node is written around the texts of its children; `render` applies it from
the leaves up. Nodes without a category of their own are copied from the source text under their
span. -/
namespace MutationTesting

structure PrintStyle where
  /-- Between a receiver and a member. -/
  memberAccess : String := "->"
  /-- Between a class name and a static member. -/
  staticAccess : String := "::"
  /-- One level of indentation inside blocks. -/
  indent : String := "    "
deriving DecidableEq, Inhabited

/-- A child as its parent sees it: its text, or why it has none, and whether it needs parentheses
as an operand. -/
structure PrintedChild where
  loose : Bool
  text : Except ShapeError String

namespace PrintedChild

def operand (c : PrintedChild) : Except ShapeError String :=
  c.text.map fun t => if c.loose then "(" ++ t ++ ")" else t

end PrintedChild

def literalChar (c : Char) : List Char :=
  if c = '"' then ['\\', '"']
  else if c = '\\' then ['\\', '\\']
  else if c = '$' then ['\\', '$']
  else if c = '\n' then ['\\', 'n']
  else [c]

def stringLiteral (value : String) : String :=
  String.ofList ('"' :: value.toList.flatMap literalChar ++ ['"'])

namespace PrintStyle

def indentation (style : PrintStyle) : Nat → String
  | 0 => ""
  | n + 1 => style.indent ++ indentation style n

def joined (separator : String) : List PrintedChild → Except ShapeError String
  | [] => .ok ""
  | [c] => c.text
  | c :: cs => do
    let t ← c.text
    let rest ← joined separator cs
    return t ++ separator ++ rest

def arguments (cs : List PrintedChild) : Except ShapeError String := do
  return "(" ++ (← joined ", " cs) ++ ")"

/-- Statements on lines of their own at the given depth. -/
def statements (style : PrintStyle) (depth : Nat) : List PrintedChild → Except ShapeError String
  | [] => .ok ""
  | c :: cs => do
    let t ← c.text
    let rest ← statements style depth cs
    return style.indentation depth ++ t ++ "\n" ++ rest

def body (style : PrintStyle) (depth : Nat) (cs : List PrintedChild) :
    Except ShapeError String :=
  if cs.isEmpty then .ok "\x7b\x7d"
  else do
    return "\x7b\n" ++ (← style.statements (depth + 1) cs) ++ style.indentation depth ++ "\x7d"

/-- Child `i` of a node of the given kind. -/
def pick (kind : Kind) (cs : List PrintedChild) (i : Nat) : Except ShapeError PrintedChild :=
  match cs[i]? with
  | some c => .ok c
  | none => .error (.missingChild kind.label i)

/-- The text of the source under a span. -/
def verbatim (kind : Kind) (source : Option String) (span : Option Span) :
    Except ShapeError String :=
  match source, span with
  | some text, some s =>
    match Text.slice? text s.start s.stop with
    | some t => .ok t
    | none => .error (.unprintable kind.label)
  | _, _ => .error (.unprintable kind.label)

/-- A kind that fixes the number of children has just that many. -/
def checkCount (kind : Kind) (count : Nat) : Except ShapeError Unit :=
  match kind.arity? with
  | some k => if k = count then .ok () else .error (.arity kind.label k count)
  | none => .ok ()

/-- The text of one node from the texts of its children. Faults count in the order in which the
text would have been written. -/
def layout (style : PrintStyle) (source : Option String) (depth : Nat) (kind : Kind)
    (span : Option Span) (cs : List PrintedChild) : Except ShapeError String := do
  checkCount kind cs.length
  match kind with
  | .module => joined "\n" cs
  | .classDecl name => return "class " ++ name ++ " " ++ (← style.body depth cs)
  | .method name => return "public function " ++ name ++ "() " ++ (← style.body depth cs)
  | .block => style.body depth cs
  | .conditional =>
    let condition ← (← pick kind cs 0).text
    let block ← (← pick kind cs 1).text
    match cs[2]? with
    | some other => return "if (" ++ condition ++ ") " ++ block ++ " else " ++ (← other.text)
    | none => return "if (" ++ condition ++ ") " ++ block
  | .exprStmt => return (← (← pick kind cs 0).text) ++ ";"
  | .returnStmt =>
    match cs[0]? with
    | some value => return "return " ++ (← value.text) ++ ";"
    | none => return "return;"
  | .methodCall name =>
    let receiver ← (← pick kind cs 0).text
    return receiver ++ style.memberAccess ++ name ++ (← arguments (cs.drop 1))
  | .functionCall name => return name ++ (← arguments cs)
  | .staticCall scope name => return scope ++ style.staticAccess ++ name ++ (← arguments cs)
  | .propertyFetch name => return (← (← pick kind cs 0).text) ++ style.memberAccess ++ name
  | .staticPropertyFetch scope name | .classConstFetch scope name =>
    return scope ++ style.staticAccess ++ name
  | .arrayAccess =>
    let receiver ← (← pick kind cs 0).text
    return receiver ++ "[" ++ (← (← pick kind cs 1).text) ++ "]"
  | .variableRef name | .constFetch name => return name
  | .binary op =>
    let left ← (← pick kind cs 0).operand
    return left ++ " " ++ op.symbol ++ " " ++ (← (← pick kind cs 1).operand)
  | .assign =>
    let left ← (← pick kind cs 0).text
    return left ++ " = " ++ (← (← pick kind cs 1).text)
  | .compoundAssign op =>
    let left ← (← pick kind cs 0).text
    return left ++ " " ++ op.symbol ++ "= " ++ (← (← pick kind cs 1).text)
  | .negate => return "-" ++ (← (← pick kind cs 0).operand)
  | .int value => return toString value.toInt
  | .float value => return value.literalText
  | .str value => return stringLiteral value
  | .bool value => return if value then "true" else "false"
  | .null => return "null"
  | .other => verbatim kind source span

mutual

/-- The text of a node at a depth of indentation, its opaque parts taken from `source`. -/
def render (style : PrintStyle) (source : Option String) (depth : Nat) :
    Node → Except ShapeError String
  | ⟨kind, children, span, _⟩ =>
    style.layout source depth kind span
      (style.renderChildren source (if kind.opensBody then depth + 1 else depth) children)

def renderChildren (style : PrintStyle) (source : Option String) (depth : Nat) :
    List Node → List PrintedChild
  | [] => []
  | c :: cs =>
    ⟨c.kind.bindsLoosely, style.render source depth c⟩ :: style.renderChildren source depth cs

end

def print (style : PrintStyle) (n : Node) : Except ShapeError String := style.render none 0 n

/-- The text of a tree whose spans point into `source`. -/
def printWith (style : PrintStyle) (source : String) (n : Node) : Except ShapeError String :=
  style.render (some source) 0 n

end PrintStyle
end MutationTesting
