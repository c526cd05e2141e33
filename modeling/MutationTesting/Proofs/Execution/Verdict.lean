import MutationTesting.Proofs.Text.Search
import MutationTesting.Scheduler.History

/-! What each kind of outcome says about the answer of the runner. -/
namespace MutationTesting

namespace ExecutionSettings

variable (s : ExecutionSettings)

def FindsError (output : String) : Prop := ∃ p ∈ s.errorPatterns, p.toList <:+: output.toList

theorem isError_iff {output : String} : s.isError output = true ↔ s.FindsError output := by
  rw [isError, List.any_eq_true]
  simp only [Text.contains_iff]
  exact .rfl

/-- The tests ran to their end without a sign of an error, and all passed or not. -/
def Ran (passed : Bool) : AdapterAnswer → Prop
  | .report r => (∃ code, r.exit = .exited code) ∧ ¬ s.FindsError r.details ∧ r.passed = passed
  | .hangs | .panics _ => False

def Stopped : AdapterAnswer → Prop
  | .report r => r.exit = .timedOut
  | .hangs => True
  | .panics _ => False

def Failed : AdapterAnswer → Prop
  | .report r =>
    (∃ reason, r.exit = .crashed reason) ∨ (∃ reason, r.exit = .launchFailed reason) ∨
      (∃ code, r.exit = .exited code) ∧ s.FindsError r.details
  | .hangs => False
  | .panics _ => True

/-- Which answers each kind stands for. A mutant that was tried is never said to be left out. -/
def Says : OutcomeKind → AdapterAnswer → Prop
  | .escaped => s.Ran true
  | .killed => s.Ran false
  | .timedOut => Stopped
  | .errored => s.Failed
  | .notCovered | .skipped => fun _ => False

variable {s}

theorem classify_kind_iff {r : AdapterReport} {ms : Nat} {kind : OutcomeKind} :
    (s.classify r ms).kind = kind ↔ s.Says kind (.report r) := by
  rw [classify]
  cases kind <;> simp only [Says, Ran, Stopped, Failed, ← isError_iff]
  all_goals
    cases r.exit with
    | exited code => cases s.isError r.details <;> cases r.passed <;> simp
    | _ => simp

end ExecutionSettings

namespace Scheduler

open ExecutionSettings

end Scheduler
end MutationTesting
