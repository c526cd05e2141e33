import MutationTesting.Tree.Node

/-! Every node of a tree with its path, parents before children and earlier children first.

A walk goes from node to node. It keeps a stack of the nodes that it has yet to visit, each of them
together with all that is below it. -/
namespace MutationTesting.Node

/-- A walk on its way: nodes to be visited and their paths, the next one first. -/
structure Walk where
  stack : List (Path × Node)

namespace Walk

/-- The children of the node at a path come on top of the stack, the last one before the others, so
that the first one is the next to be visited. -/
def push (w : Walk) (p : Path) (children : List Node) : Walk where
  stack := children.zipIdx.foldr (fun c stack => (p.child c.2, c.1) :: stack) w.stack

/-- The next node with its path, and the walk from there on. -/
def next? (w : Walk) : Option ((Path × Node) × Walk) :=
  match w.stack with
  | [] => none
  | (p, n) :: rest => some ((p, n), push ⟨rest⟩ p n.children)

/-- What a walk visits within a number of steps. -/
def visits : Nat → Walk → List (Path × Node)
  | 0, _ => []
  | steps + 1, w =>
    match w.next? with
    | none => []
    | some (visit, w') => visit :: visits steps w'

end Walk

def startWalk (n : Node) : Walk := ⟨[([], n)]⟩

/-- A walk of a tree is over after as many steps as the tree has nodes. -/
def walk (n : Node) : List (Path × Node) := n.startWalk.visits n.size

end MutationTesting.Node
