import MutationTesting.Tree.Kind

/-! Nodes of a syntax tree, the paths that locate them, and questions about a single node.

Nodes hold no reference to their parent. A node is located by the child indices that lead to it
from the root, and trees are only ever copied, never changed in place. -/
namespace MutationTesting

/-- A range of bytes of the source text, from `start` up to `stop`, and the lines it touches,
counted from one. -/
structure Span where
  start : Nat
  stop : Nat
  startLine : Nat
  stopLine : Nat
deriving DecidableEq, Inhabited

/-- Facts about where a node stands, which annotating a source file fills in. -/
structure Attributes where
  line : Option Nat := none
  enclosingClass : Option String := none
  enclosingFunction : Option String := none
deriving DecidableEq, Inhabited

namespace Attributes

def isEmpty (a : Attributes) : Bool :=
  a.line.isNone && a.enclosingClass.isNone && a.enclosingFunction.isNone

/-- `Class::method`, the one of the two that is present, or nothing outside any declaration. -/
def qualifiedScope? (a : Attributes) : Option String :=
  match a.enclosingClass, a.enclosingFunction with
  | some c, some f => some (c ++ "::" ++ f)
  | some c, none => some c
  | none, some f => some f
  | none, none => none

end Attributes

structure Node where
  kind : Kind
  children : List Node := []
  span : Option Span := none
  attributes : Attributes := {}
deriving Inhabited

abbrev Path := List Nat

namespace Path

def text (p : Path) : String :=
  if p.isEmpty then "root" else ".".intercalate (p.map toString)

def child (p : Path) (i : Nat) : Path := p ++ [i]

/-- The path without its last index; the root has no parent. -/
def parent? (p : Path) : Option Path := if p.isEmpty then none else some p.dropLast

end Path

/-- A node, or a tree around it, is not shaped as its kind promises. -/
inductive ShapeError where
  | arity (kind : String) (expected found : Nat)
  | missingChild (kind : String) (index : Nat)
  | noReceiver (kind : String)
  | missingPath (path : Path)
  | unprintable (kind : String)
deriving DecidableEq

def ShapeError.message : ShapeError → String
  | arity kind expected found =>
    kind ++ " node expects " ++ toString expected ++ " children, found " ++ toString found
  | missingChild kind index => kind ++ " node has no child at index " ++ toString index
  | noReceiver kind => kind ++ " node has no receiver"
  | missingPath path => "path " ++ path.text ++ " does not exist in the tree"
  | unprintable kind => kind ++ " node has no source text to print from"

namespace Node

mutual

def decEq : (a b : Node) → Decidable (a = b)
  | ⟨k, cs, s, t⟩, ⟨k', cs', s', t'⟩ =>
    if h : k = k' ∧ s = s' ∧ t = t' then
      match decEqChildren cs cs' with
      | isTrue g => isTrue (by rw [h.1, h.2.1, h.2.2, g])
      | isFalse g => isFalse (by simp [g])
    else isFalse fun e => h (by cases e; exact ⟨rfl, rfl, rfl⟩)

def decEqChildren : (as bs : List Node) → Decidable (as = bs)
  | [], [] => isTrue rfl
  | [], _ :: _ | _ :: _, [] => isFalse (by simp)
  | a :: as, b :: bs =>
    match decEq a b, decEqChildren as bs with
    | isTrue h, isTrue g => isTrue (h ▸ g ▸ rfl)
    | isFalse h, _ => isFalse (by simp [h])
    | _, isFalse g => isFalse (by simp [g])

end

instance : DecidableEq Node := decEq

def leaf (kind : Kind) : Node := { kind }

mutual

def size : Node → Nat
  | ⟨_, cs, _, _⟩ => 1 + sizeChildren cs

def sizeChildren : List Node → Nat
  | [] => 0
  | c :: cs => size c + sizeChildren cs

end

def child (n : Node) (i : Nat) : Except ShapeError Node :=
  match n.children[i]? with
  | some c => .ok c
  | none => .error (.missingChild n.kind.label i)

/-- Kinds that fix the number of their children must have just that many. -/
def checkShape (n : Node) : Except ShapeError Unit :=
  match n.kind.arity? with
  | some k =>
    if k = n.children.length then .ok ()
    else .error (.arity n.kind.label k n.children.length)
  | none => .ok ()

def receiver (n : Node) : Except ShapeError Node :=
  match n.kind.receiverSlot? with
  | some slot => n.child slot
  | none => .error (.noReceiver n.kind.label)

def callArgs (n : Node) : List Node :=
  match n.kind with
  | .methodCall _ => n.children.drop 1
  | .functionCall _ | .staticCall _ _ => n.children
  | _ => []

def firstStringArg? (n : Node) : Option String :=
  match n.callArgs.head? with
  | some ⟨.str value, _, _, _⟩ => some value
  | _ => none

def methodName? (n : Node) : Option String :=
  match n.kind with
  | .methodCall name => some name
  | _ => none

/-- The source line, from the attributes or else from the span. -/
def line? (n : Node) : Option Nat := n.attributes.line.or (n.span.map Span.startLine)

/-- The first and the last line of the node, in order even where a span has them reversed. -/
def lineRange? (n : Node) : Option (Nat × Nat) :=
  match n.span with
  | some s => some (s.startLine, max s.stopLine s.startLine)
  | none => n.attributes.line.map fun l => (l, l)

end Node
end MutationTesting
