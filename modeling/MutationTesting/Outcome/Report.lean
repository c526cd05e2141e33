import MutationTesting.Outcome.Score

/-! The report of a run: its results in the order of their places, and the score. -/
namespace MutationTesting

structure Report where
  results : List MutantResult
  score : Score
  /-- The run was cancelled before every mutant was finished. -/
  isPartial : Bool
  /-- Faults of operators. -/
  diagnostics : List Diagnostic

namespace MutantRecord

def lineBefore : Option Nat → Option Nat → Bool
  | none, some _ => true
  | some a, some b => decide (a < b)
  | _, none => false

def comesBefore (a b : MutantRecord) : Bool :=
  if Location.before a.file b.file then true
  else if Location.before b.file a.file then false
  else if lineBefore a.line b.line then true
  else if lineBefore b.line a.line then false
  else decide (a.id < b.id)

end MutantRecord

namespace Report

/-- Results in the order of their places; what is at the same place stays in its order. -/
def sorted (results : List MutantResult) : List MutantResult :=
  results.mergeSort fun a b => !b.mutant.comesBefore a.mutant

def ofResults (results : List MutantResult) (diagnostics : List Diagnostic) (isPartial : Bool)
    (policy : ScoringPolicy) : Report where
  results := sorted results
  score := .ofResults results policy
  isPartial
  diagnostics

def withKind (r : Report) (kind : OutcomeKind) : List MutantResult :=
  r.results.filter fun x => x.kind == kind

/-- Results by kind, in the report's order of kinds, without empty groups. -/
def categorized (r : Report) : List (OutcomeKind × List MutantResult) :=
  (OutcomeKind.reportOrder.map fun k => (k, r.withKind k)).filter fun g => !g.2.isEmpty

def escaped (r : Report) : List MutantResult := r.withKind .escaped

def toJson (r : Report) : Json :=
  .obj [("results", .arr (r.results.map MutantResult.toJson)), ("score", r.score.toJson),
    ("partial", .bool r.isPartial), ("diagnostics", .arr (r.diagnostics.map Diagnostic.toJson))]

end Report
end MutationTesting
