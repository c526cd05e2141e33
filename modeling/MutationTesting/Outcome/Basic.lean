import MutationTesting.Mutant.Basic

/-! What became of a mutant. -/
namespace MutationTesting

inductive OutcomeKind where
  /-- A test failed: the change was noticed. -/
  | killed
  /-- All selected tests passed. -/
  | escaped
  /-- The mutant could not be tried. -/
  | errored
  /-- The tests took too long and were stopped. -/
  | timedOut
  /-- No test executes the changed code. -/
  | notCovered
  /-- Left out by configuration or by cancellation. -/
  | skipped
deriving DecidableEq, Inhabited

namespace OutcomeKind

def all : List OutcomeKind := [killed, escaped, errored, timedOut, notCovered, skipped]

/-- The order of the groups of a report: what needs attention comes first. -/
def reportOrder : List OutcomeKind := [escaped, errored, timedOut, notCovered, killed, skipped]

def word : OutcomeKind → String
  | killed => "killed"
  | escaped => "escaped"
  | errored => "errored"
  | timedOut => "timed_out"
  | notCovered => "not_covered"
  | skipped => "skipped"

def ofWord? (w : String) : Option OutcomeKind := all.find? fun k => k.word == w

def ofJson? : Json → Option OutcomeKind := Json.asWord? ofWord?

theorem mem_reportOrder (k : OutcomeKind) : k ∈ reportOrder := by cases k <;> decide

end OutcomeKind

structure Outcome where
  kind : OutcomeKind
  durationMs : Nat := 0
  /-- The first failing test that the runner named. -/
  killingTest : Option String := none
  /-- Output of the runner or text of an error. -/
  diagnostic : Option String := none
deriving DecidableEq, Inhabited

namespace Outcome

def notExecuted (kind : OutcomeKind) (reason : String) : Outcome :=
  { kind, diagnostic := some reason }

def toJson (o : Outcome) : Json :=
  .obj ([("kind", .str o.kind.word), ("duration_ms", .ofNat o.durationMs)]
    ++ Json.field? "killing_test" .str o.killingTest
    ++ Json.field? "diagnostic" .str o.diagnostic)

def ofJson? (j : Json) : Option Outcome := do
  match ← Json.record? ["kind", "duration_ms", "killing_test", "diagnostic"] j with
  | [kind, duration, killingTest, diagnostic] =>
    some {
      kind := ← Json.required OutcomeKind.ofJson? kind
      durationMs := ← Json.required Json.asNat? duration
      killingTest := ← Json.optional Json.asString? killingTest
      diagnostic := ← Json.optional Json.asString? diagnostic }
  | _ => none

end Outcome

structure MutantResult where
  mutant : MutantRecord
  outcome : Outcome
deriving DecidableEq, Inhabited

namespace MutantResult

def kind (r : MutantResult) : OutcomeKind := r.outcome.kind

def toJson (r : MutantResult) : Json :=
  .obj [("mutant", r.mutant.toJson), ("outcome", r.outcome.toJson)]

def ofJson? (j : Json) : Option MutantResult := do
  match ← Json.record? ["mutant", "outcome"] j with
  | [mutant, outcome] =>
    some {
      mutant := ← Json.required MutantRecord.ofJson? mutant
      outcome := ← Json.required Outcome.ofJson? outcome }
  | _ => none

end MutantResult
end MutationTesting
