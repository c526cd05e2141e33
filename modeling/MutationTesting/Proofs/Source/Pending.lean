import MutationTesting.Source.File
import MutationTesting.Proofs.Tree.Replacement

/-! Annotating a tree by means of a stack comes to the same as annotating it by recursion.

What is pending is told by the stack: each of its nodes is to be annotated in its own scope, with
all that is below it, and put in its place. A step leaves the tree that this comes to as it is. -/
namespace MutationTesting

namespace Node

mutual

/-- The tree annotated in a scope, by recursion over the tree. -/
def annotateIn (scope : Scope) : Node → Node
  | ⟨kind, children, span, attributes⟩ =>
    ⟨kind, annotateChildren (scope.inside kind) children, span,
      attributesIn scope ⟨kind, children, span, attributes⟩⟩

def annotateChildren (scope : Scope) : List Node → List Node
  | [] => []
  | c :: cs => annotateIn scope c :: annotateChildren scope cs

end

private theorem annotateChildren_eq_map (scope : Scope) (cs : List Node) :
    annotateChildren scope cs = cs.map (annotateIn scope) := by
  induction cs with
  | nil => rfl
  | cons c cs ih => rw [annotateChildren, ih, List.map_cons]

theorem annotateIn_eq (scope : Scope) (n : Node) : n.annotateIn scope =
    ⟨n.kind, n.children.map (annotateIn (scope.inside n.kind)), n.span, n.attributesIn scope⟩ := by
  cases n
  rw [annotateIn, annotateChildren_eq_map]

private theorem put_singleton (n : Node) (i : Nat) (c : Node) :
    n.put [i] c = { n with children := n.children.set i c } := by
  rw [put, set?_cons]
  cases here : n.children[i]? with
  | none =>
    rw [List.set_eq_of_length_le (List.getElem?_eq_none_iff.mp here)]
    cases n
    rfl
  | some d => rfl

/-- Putting new children in the place of the old ones, the last one first, replaces all of them. -/
private theorem foldr_put_children (f : Node → Node) (n : Node) (first : List Node) {cs : List Node}
    (children : n.children = first ++ cs) :
    (cs.zipIdx first.length).foldr (fun c n => n.put [c.2] (f c.1)) n =
      { n with children := first ++ cs.map f } := by
  induction cs generalizing first with
  | nil =>
    rw [List.map_nil, ← children]
    cases n
    rfl
  | cons c cs ih =>
    have later := ih (first ++ [c]) (by rw [children, List.append_assoc, List.singleton_append])
    rw [List.length_append, List.length_singleton] at later
    rw [List.zipIdx_cons, List.foldr_cons, later, put_singleton]
    simp

end Node

namespace Annotating

variable {a a' : Annotating}

/-- All that a step can do. -/
private theorem exists_top_of_next? (h : a.next? = some a') :
    ∃ p n scope rest, a.stack = ⟨p, n, scope⟩ :: rest ∧
      a'.tree = a.tree.put p { n with attributes := n.attributesIn scope } ∧
      a'.stack = n.children.zipIdx.foldl
        (fun stack c => ⟨p.child c.2, c.1, scope.inside n.kind⟩ :: stack) rest := by
  unfold next? at h
  split at h
  · cases h
  · next p n scope rest top =>
    obtain rfl := Option.some.inj h
    exact ⟨p, n, scope, rest, top, rfl, rfl⟩

private theorem stack_of_next?_eq_none (h : a.next? = none) : a.stack = [] := by
  unfold next? at h
  split at h
  · next done => exact done
  · cases h

/-- The tree with all that is pending at one place annotated there. -/
def settle (tree : Node) (e : Pending) : Node := tree.put e.path (e.node.annotateIn e.scope)

def outcome (a : Annotating) : Node := a.stack.foldl settle a.tree

/-- Settling the children of an annotated node settles all that is below it. -/
private theorem settle_children (tree n : Node) (p : Path) (scope : Scope) :
    n.children.zipIdx.foldr
        (fun c tree => settle tree ⟨p.child c.2, c.1, scope.inside n.kind⟩)
        (tree.put p { n with attributes := n.attributesIn scope }) =
      settle tree ⟨p, n, scope⟩ := by
  have inside : n.children.zipIdx.foldr
      (fun c m => m.put [c.2] (c.1.annotateIn (scope.inside n.kind)))
      { n with attributes := n.attributesIn scope } = n.annotateIn scope := by
    rw [Node.annotateIn_eq]
    exact Node.foldr_put_children _ { n with attributes := n.attributesIn scope } [] rfl
  rw [settle, ← inside]
  exact List.foldr_hom (tree.put p ·) fun c m => Node.put_put_append tree p [c.2] m _

/-- A step does a part of what is pending. -/
private theorem outcome_of_next? (h : a.next? = some a') : a'.outcome = a.outcome := by
  obtain ⟨p, n, scope, rest, top, tree, stack⟩ := exists_top_of_next? h
  -- The children came on the stack one after the other, so the last of them is settled first.
  rw [outcome, outcome, top, tree, stack, List.foldl_cons, ← settle_children,
    List.foldl_flip_cons_eq_append, List.foldl_append, List.foldl_reverse, List.foldr_map]

private theorem outcome_of_next?_eq_none (h : a.next? = none) : a.outcome = a.tree := by
  rw [outcome, stack_of_next?_eq_none h, List.foldl_nil]

def remaining (a : Annotating) : Nat := Node.sizeChildren (a.stack.map (·.node))

private theorem sizeChildren_pushed (p : Path) (scope : Scope) (cs : List Node) (first : Nat)
    (stack : List Pending) :
    Node.sizeChildren (((cs.zipIdx first).foldl
        (fun stack c => ⟨p.child c.2, c.1, scope⟩ :: stack) stack).map (·.node)) =
      Node.sizeChildren cs + Node.sizeChildren (stack.map (·.node)) := by
  induction cs generalizing first stack with
  | nil => rw [List.zipIdx_nil, List.foldl_nil, Node.sizeChildren, Nat.zero_add]
  | cons c cs ih =>
    rw [List.zipIdx_cons, List.foldl_cons, ih, List.map_cons, Node.sizeChildren,
      Node.sizeChildren, Nat.add_left_comm, Nat.add_assoc]

/-- A step leaves one node less. -/
private theorem remaining_of_next? (h : a.next? = some a') : a.remaining = a'.remaining + 1 := by
  obtain ⟨p, n, scope, rest, top, -, stack⟩ := exists_top_of_next? h
  rw [remaining, remaining, top, stack, sizeChildren_pushed, List.map_cons, Node.sizeChildren,
    n.size_eq]
  omega

/-- With as many steps as there are nodes pending, all gets annotated. -/
private theorem run_eq_outcome {steps : Nat} (enough : a.remaining ≤ steps) :
    a.run steps = a.outcome := by
  induction steps generalizing a with
  | zero =>
    cases more : a.next? with
    | none => exact (outcome_of_next?_eq_none more).symm
    | some a' =>
      rw [remaining_of_next? more] at enough
      cases enough
  | succ steps ih =>
    rw [run]
    cases more : a.next? with
    | none => exact (outcome_of_next?_eq_none more).symm
    | some a' =>
      rw [remaining_of_next? more] at enough
      rw [← outcome_of_next? more]
      exact ih (Nat.le_of_succ_le_succ enough)

end Annotating

theorem Node.annotate_eq_annotateIn (n : Node) : n.annotate = n.annotateIn {} := by
  have alone : (Annotating.start n).remaining = n.size := rfl
  rw [Node.annotate, Annotating.run_eq_outcome (Nat.le_of_eq alone)]
  rfl

end MutationTesting
