import MutationTesting.Tree.Node

/-! Looking up and replacing the node at a path, and comparing trees by shape. -/
namespace MutationTesting.Node

def get? : Node → Path → Option Node
  | n, [] => some n
  | n, i :: p =>
    match n.children[i]? with
    | some c => c.get? p
    | none => none

def set? : Node → Path → Node → Option Node
  | _, [], r => some r
  | n, i :: p, r =>
    match n.children[i]? with
    | some c => (c.set? p r).map fun c' => { n with children := n.children.set i c' }
    | none => none

/-- The tree with another node at a path, and the same tree if the path leads nowhere. -/
def put (n : Node) (p : Path) (r : Node) : Node := (n.set? p r).getD n

def locate (n : Node) (p : Path) : Except ShapeError Node :=
  match n.get? p with
  | some m => .ok m
  | none => .error (.missingPath p)

def withReplaced (n : Node) (p : Path) (r : Node) : Except ShapeError Node :=
  match n.set? p r with
  | some m => .ok m
  | none => .error (.missingPath p)

def replaceChild (n : Node) (i : Nat) (r : Node) : Except ShapeError Node :=
  if i < n.children.length then .ok { n with children := n.children.set i r }
  else .error (.missingChild n.kind.label i)

/-- The tree with the node at `p` replaced by its own receiver, which shortens a fluent chain by one
link. -/
def spliceReceiver (n : Node) (p : Path) : Except ShapeError Node := do
  let target ← n.locate p
  let r ← target.receiver
  n.withReplaced p r

/-- Nodes still to be visited on the left of the pending pairs. -/
def pendingSize : List (Node × Node) → Nat
  | [] => 0
  | (a, _) :: rest => a.size + pendingSize rest

theorem pendingSize_append (xs ys : List (Node × Node)) :
    pendingSize (xs ++ ys) = pendingSize xs + pendingSize ys := by
  induction xs with
  | nil => simp [pendingSize]
  | cons x xs ih => simp [pendingSize, ih, Nat.add_assoc]

theorem pendingSize_zip_le (as bs : List Node) : pendingSize (as.zip bs) ≤ sizeChildren as := by
  induction as generalizing bs with
  | nil => simp [pendingSize]
  | cons a as ih =>
    cases bs with
    | nil => simp [pendingSize]
    | cons b bs => simp [pendingSize, sizeChildren, ih bs]

theorem sizeChildren_lt_size (a : Node) : sizeChildren a.children < a.size := by
  cases a; simp [size]

/-- Whether all pending pairs agree in kind and in number of children, and so do the pairs of their
children. -/
def agreeAll : List (Node × Node) → Bool
  | [] => true
  | (a, b) :: rest =>
    if a.kind.agrees b.kind && a.children.length == b.children.length then
      agreeAll (a.children.zip b.children ++ rest)
    else false
termination_by pending => pendingSize pending
decreasing_by
  have := pendingSize_zip_le a.children b.children
  have := sizeChildren_lt_size a
  simp only [pendingSize, pendingSize_append]
  omega

/-- Same kinds and children all the way down; spans and attributes do not count. -/
def sameShape (a b : Node) : Bool := agreeAll [(a, b)]

mutual

/-- Equality with spans and attributes included, floating point values compared as numbers. -/
def numericEq : Node → Node → Bool
  | ⟨k, cs, s, t⟩, ⟨k', cs', s', t'⟩ =>
    k.agrees k' && decide (s = s') && decide (t = t') && numericEqChildren cs cs'

def numericEqChildren : List Node → List Node → Bool
  | [], [] => true
  | a :: as, b :: bs => numericEq a b && numericEqChildren as bs
  | _, _ => false

end

end MutationTesting.Node
