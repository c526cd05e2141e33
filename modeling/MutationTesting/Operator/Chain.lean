import MutationTesting.Tree.Edit
import MutationTesting.Operator.Placeholder
import MutationTesting.Config.Settings
import MutationTesting.Text.Lines

/-! Removal of calls from fluent chains.

The links of a chain are the nodes met from a statement's expression along receivers. Taking out a
filter call also takes out the calls that bind the placeholders of its query, so that a mutant does
not fail only for binding what nobody mentions any more. -/
namespace MutationTesting

/-- How chains are shortened: which calls may go, which introduce placeholders and which bind them,
and in which classes that is done. -/
structure ChainRemoval where
  methods : List String
  filterMethods : List String
  binderMethods : List String
  bindings : BindingRemoval
  inScope : Option String → Bool

/-- A statement without one of its calls, and the placeholders that the call introduced. -/
structure Removal where
  statement : Node
  placeholders : List String

namespace Node

def linksFrom (p : Path) : Node → List (Path × Node)
  | ⟨k, [], s, a⟩ => [(p, ⟨k, [], s, a⟩)]
  | ⟨k, c :: cs, s, a⟩ =>
    (p, ⟨k, c :: cs, s, a⟩) ::
      match k.receiverSlot? with
      | some slot => linksFrom (p.child slot) c
      | none => []

def links (statement : Node) : List (Path × Node) :=
  match statement.children with
  | [] => []
  | c :: _ => linksFrom [0] c

end Node

namespace ChainRemoval

/-- Everywhere, with the given calls to remove and the usual filters and binders. -/
def ofMethods (methods : List String) : ChainRemoval :=
  let defaults : ChainSettings := {}
  { methods
    filterMethods := defaults.filterMethods
    binderMethods := defaults.binderMethods
    bindings := .first
    inScope := fun _ => true }

def ofSettings (s : ChainSettings) : ChainRemoval where
  methods := s.methods
  filterMethods := s.filterMethods
  binderMethods := s.binderMethods
  bindings := s.bindings
  inScope
    | some name => s.scope.isEmpty || s.scope.any fun piece => Text.contains name piece
    | none => s.scope.isEmpty

def isEligible (r : ChainRemoval) (n : Node) : Bool :=
  n.methodName?.any fun name => r.methods.contains name

/-- Paths of the calls that may go, outermost first; only expression statements have any. -/
def eligibleCalls (r : ChainRemoval) (statement : Node) : List Path :=
  if statement.kind = .exprStmt then
    (statement.links.filter fun l => r.isEligible l.2).map Prod.fst
  else []

/-- Placeholders that a call introduces: those of a filter's first argument, if that is a string
literal. -/
def introduces (r : ChainRemoval) (call : Node) : List String :=
  if call.methodName?.any fun name => r.filterMethods.contains name then
    match call.firstStringArg? with
    | some query => placeholderNames query
    | none => []
  else []

def removeCall (r : ChainRemoval) (statement : Node) (p : Path) : Except ShapeError Removal := do
  let call ← statement.locate p
  return { statement := ← statement.spliceReceiver p, placeholders := r.introduces call }

def binds (r : ChainRemoval) (name : String) (call : Node) : Bool :=
  (call.methodName?.any fun m => r.binderMethods.contains m)
    && call.firstStringArg? == some name

def findBinder? (r : ChainRemoval) (statement : Node) (name : String) : Option Path :=
  (statement.links.find? fun l => r.binds name l.2).map Prod.fst

/-- Takes out at most `count` binders of a placeholder, from the outermost on. -/
def removeBinders (r : ChainRemoval) (name : String) :
    (count : Nat) → Node → Except ShapeError Node
  | 0, statement => .ok statement
  | count + 1, statement =>
    match r.findBinder? statement name with
    | some p => do r.removeBinders name count (← statement.spliceReceiver p)
    | none => .ok statement

/-- Takes out the binders of a placeholder that the rule names; a chain has no more binders than
links. -/
def removeBindings (r : ChainRemoval) (statement : Node) (name : String) :
    Except ShapeError Node :=
  match r.bindings with
  | .first => r.removeBinders name 1 statement
  | .all => r.removeBinders name statement.links.length statement

/-- The statement without the call at a path and without the bindings that it leaves behind. -/
def removeAt (r : ChainRemoval) (statement : Node) (p : Path) : Except ShapeError Node := do
  let removal ← r.removeCall statement p
  removal.placeholders.foldlM r.removeBindings removal.statement

def applies (r : ChainRemoval) (n : Node) : Bool :=
  n.kind == .exprStmt && r.inScope n.attributes.enclosingClass && !(r.eligibleCalls n).isEmpty

def proposals (r : ChainRemoval) (n : Node) : Proposals :=
  if n.kind = .exprStmt then
    (r.eligibleCalls n).map fun p => (r.removeAt n p).mapError .shape
  else [.error (.unsupported .chainCallRemoval n.kind.label)]

end ChainRemoval
end MutationTesting
