import MutationTesting.Tree.Printer
import MutationTesting.Json.Value

/-! Trees as JSON documents.

A node is one object: its kind and own fields beside `children`, `span` and `attributes`, each of
which is left out when it has nothing to say. A kind that the vocabulary does not know is read as
an opaque node. -/
namespace MutationTesting

open Json (withDefault optional required record? lookup? distinct)

namespace BinaryOperator

def ofJson? : Json → Option BinaryOperator := Json.asWord? ofWord?

def toJson (op : BinaryOperator) : Json := .str op.word

end BinaryOperator

namespace Span

def ofJson? (j : Json) : Option Span := do
  match ← record? ["start", "end", "start_line", "end_line"] j with
  | [start, stop, startLine, stopLine] =>
    some {
      start := ← required Json.asNat? start
      stop := ← required Json.asNat? stop
      startLine := ← required Json.asNat? startLine
      stopLine := ← required Json.asNat? stopLine }
  | _ => none

def toJson (s : Span) : Json :=
  .obj [("start", .ofNat s.start), ("end", .ofNat s.stop),
    ("start_line", .ofNat s.startLine), ("end_line", .ofNat s.stopLine)]

end Span

namespace Attributes

def ofJson? (j : Json) : Option Attributes := do
  match ← record? ["line", "enclosing_class", "enclosing_function"] j with
  | [line, enclosingClass, enclosingFunction] =>
    some {
      line := ← optional Json.asNat? line
      enclosingClass := ← optional Json.asString? enclosingClass
      enclosingFunction := ← optional Json.asString? enclosingFunction }
  | _ => none

def toJson (a : Attributes) : Json :=
  .obj (Json.field? "line" .ofNat a.line
    ++ Json.field? "enclosing_class" .str a.enclosingClass
    ++ Json.field? "enclosing_function" .str a.enclosingFunction)

end Attributes

namespace Kind

/-- Own fields beside the kind, as they are written. -/
def ownFields : Kind → List (String × Json)
  | classDecl name | method name | methodCall name | functionCall name | propertyFetch name
  | variableRef name | constFetch name => [("name", .str name)]
  | staticCall scope name | staticPropertyFetch scope name | classConstFetch scope name =>
    [("class", .str scope), ("name", .str name)]
  | binary op | compoundAssign op => [("op", op.toJson)]
  | int value => [("value", .int value.toInt)]
  | float value => [("value", if value.isFinite then .real value else .null)]
  | str value => [("value", .str value)]
  | bool value => [("value", .bool value)]
  | module | block | conditional | exprStmt | returnStmt | arrayAccess | assign | negate | null
  | other => []

/-- An own field, which must be written once. -/
def own? {α : Type} (name : String) (read : Json → Option α) (fields : List (String × Json)) :
    Option α :=
  if distinct [name] fields then required read (lookup? name fields) else none

def ofLabel? (label : String) (fields : List (String × Json)) : Option Kind :=
  let name := own? "name" Json.asString? fields
  let scope := own? "class" Json.asString? fields
  let op := own? "op" BinaryOperator.ofJson? fields
  match label with
  | "module" => some module
  | "class" => name.map classDecl
  | "method" => name.map method
  | "block" => some block
  | "if" => some conditional
  | "expression_stmt" => some exprStmt
  | "return" => some returnStmt
  | "method_call" => name.map methodCall
  | "function_call" => name.map functionCall
  | "static_call" => scope.bind fun s => name.map (staticCall s)
  | "property_fetch" => name.map propertyFetch
  | "static_property_fetch" => scope.bind fun s => name.map (staticPropertyFetch s)
  | "array_access" => some arrayAccess
  | "variable" => name.map variableRef
  | "const_fetch" => name.map constFetch
  | "class_const_fetch" => scope.bind fun s => name.map (classConstFetch s)
  | "binary_op" => op.map binary
  | "assign" => some assign
  | "compound_assign" => op.map compoundAssign
  | "unary_minus" => some negate
  | "int" => (own? "value" Json.asInt64? fields).map int
  | "float" => (own? "value" Json.asReal? fields).map float
  | "str" => (own? "value" Json.asString? fields).map str
  | "bool" => (own? "value" Json.asBool? fields).map bool
  | "null" => some null
  | _ => some other

/-- The label an object carries: a word, or the place of one among the labels. -/
def labelOf? : Json → Option String
  | .str s => some s
  | .int i => if 0 ≤ i then some (labels.getD i.toNat "other") else none
  | _ => none

def ofFields? (fields : List (String × Json)) : Option Kind := do
  ofLabel? (← own? "kind" labelOf? fields) fields

end Kind

namespace Node

mutual

def toJson : Node → Json
  | ⟨kind, children, span, attributes⟩ =>
    .obj ([("kind", .str kind.label)] ++ kind.ownFields
      ++ (if children.isEmpty then [] else [("children", .arr (toJsonList children))])
      ++ Json.field? "span" Span.toJson span
      ++ (if attributes.isEmpty then [] else [("attributes", attributes.toJson)]))

def toJsonList : List Node → List Json
  | [] => []
  | c :: cs => toJson c :: toJsonList cs

end

mutual

def ofJson? : Json → Option Node
  | .obj fields => do
    guard (distinct ["children", "span", "attributes"] fields)
    some {
      kind := ← Kind.ofFields? fields
      children := ← childrenField? fields
      span := ← optional Span.ofJson? (lookup? "span" fields)
      attributes := ← withDefault {} Attributes.ofJson? (lookup? "attributes" fields) }
  | _ => none

/-- The nodes under the first field called `children`; none of them if there is no such field. -/
def childrenField? : List (String × Json) → Option (List Node)
  | [] => some []
  | (k, v) :: rest => if k = "children" then array? v else childrenField? rest

def array? : Json → Option (List Node)
  | .arr items => ofJsonList? items
  | _ => none

def ofJsonList? : List Json → Option (List Node)
  | [] => some []
  | j :: js => do
    let n ← ofJson? j
    let ns ← ofJsonList? js
    some (n :: ns)

end

end Node

namespace Path

def ofJson? : Json → Option Path := Json.asList? Json.asNat?

def toJson (p : Path) : Json := .arr (p.map .ofNat)

end Path

namespace PrintStyle

def ofJson? (j : Json) : Option PrintStyle := do
  match ← record? ["member_access", "static_access", "indent"] j with
  | [memberAccess, staticAccess, indent] =>
    some {
      memberAccess := ← withDefault "->" Json.asString? memberAccess
      staticAccess := ← withDefault "::" Json.asString? staticAccess
      indent := ← withDefault "    " Json.asString? indent }
  | _ => none

end PrintStyle
end MutationTesting
