import MutationTesting.Tree.Edit
import MutationTesting.Tree.Format
import MutationTesting.Text.Bytes
import MutationTesting.Disk.Location

/-! Parsed source files: where they are, their text and their tree.

Annotating a file tells every node its line and the declarations around it. -/
namespace MutationTesting

structure SourceFile where
  path : Location
  text : String := ""
  ast : Node
deriving Inhabited

structure Scope where
  enclosingClass : Option String := none
  enclosingFunction : Option String := none
deriving DecidableEq

namespace Scope

/-- The scope of the children of a node. A class starts afresh; a method keeps its class. -/
def inside (scope : Scope) : Kind → Scope
  | .classDecl name => ⟨some name, none⟩
  | .method name => { scope with enclosingFunction := some name }
  | _ => scope

end Scope

namespace Node

/-- Attributes of a node in a scope: a line it already had stays, else its span gives one. -/
def attributesIn (scope : Scope) (n : Node) : Attributes where
  line := n.attributes.line.or (n.span.map Span.startLine)
  enclosingClass := scope.enclosingClass
  enclosingFunction := scope.enclosingFunction

end Node

/-- A node that is yet to be annotated with all that is below it, its place in the tree and the
scope of that place. -/
structure Pending where
  path : Path
  node : Node
  scope : Scope

/-- Annotating on its way: the tree as it is by now, and a stack of the nodes that are pending. -/
structure Annotating where
  tree : Node
  stack : List Pending

namespace Annotating

def start (n : Node) : Annotating := ⟨n, [⟨[], n, {}⟩]⟩

/-- The node on top of the stack gets its attributes, in its place in the tree, and its children are
put on the stack one after the other. -/
def next? (a : Annotating) : Option Annotating :=
  match a.stack with
  | [] => none
  | ⟨p, n, scope⟩ :: rest =>
    some {
      tree := a.tree.put p { n with attributes := n.attributesIn scope }
      stack := n.children.zipIdx.foldl
        (fun stack c => ⟨p.child c.2, c.1, scope.inside n.kind⟩ :: stack) rest }

def run : Nat → Annotating → Node
  | 0, a => a.tree
  | steps + 1, a =>
    match a.next? with
    | none => a.tree
    | some a' => run steps a'

end Annotating

/-- Annotating a tree takes as many steps as the tree has nodes. -/
def Node.annotate (n : Node) : Node := (Annotating.start n).run n.size

namespace SourceFile

def annotate (f : SourceFile) : SourceFile := { f with ast := f.ast.annotate }

/-- A tree without children holds nothing to mutate. -/
def isEmpty (f : SourceFile) : Bool := f.ast.children.isEmpty

/-- The text under the span of the node at a path. -/
def snippet? (f : SourceFile) (p : Path) : Option String :=
  match f.ast.get? p with
  | some n => n.span.bind fun s => Text.slice? f.text s.start s.stop
  | none => none

def ofJson? (j : Json) : Option SourceFile := do
  match ← Json.record? ["path", "text", "ast"] j with
  | [path, text, ast] =>
    some {
      path := ← Json.required Json.asString? path
      text := ← Json.withDefault "" Json.asString? text
      ast := ← Json.required Node.ofJson? ast }
  | _ => none

def toJson (f : SourceFile) : Json :=
  .obj [("path", .str f.path), ("text", .str f.text), ("ast", f.ast.toJson)]

end SourceFile
end MutationTesting
