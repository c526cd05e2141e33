import Mathlib.Data.List.Nodup
import MutationTesting.Proofs.Mutant.Origin
import MutationTesting.Proofs.Outcome.Order
import MutationTesting.Proofs.Scheduler.Conduct
import MutationTesting.Proofs.Tree.Walk

/-! The report of a run does not depend on who tries which mutant, and when. -/
namespace MutationTesting

/-- A failure that says something about the disk and not about the mutant. -/
def WorkspaceError.isOfDisk : WorkspaceError → Bool
  | notPatched .. => false
  | _ => true

namespace Scheduler

abbrev Oracle := String → TestSelection → AdapterAnswer

namespace Fate

def isHindered : Fate → Bool
  | unprepared e => e.isOfDisk
  | _ => false

end Fate

/-- Runners leave the workspaces of others alone, and each gives the answer for the text that it
finds when it is asked or when it answers. -/
def Follows (answer : Oracle) (s : State) : Action → Prop
  | .finish slot a disk => Tidy s (.finish slot a disk) ∧ ∀ x ∈ s.callAt slot,
    (∀ text, x.2.text = .ok text → a = answer text x.2.request.selection) ∨
      ∀ text, s.disk.readText x.2.request.artifact = .ok text →
        a = answer text x.2.request.selection
  | _ => True

/-- The run was not cancelled, and the disk could be used. -/
structure Undisturbed (h : History) : Prop where
  uncancelled : .cancelled ∉ h
  unhindered : ∀ x ∈ h.worked, x.fate.isHindered = false

/-- The answer to a call is the one for the text that is to be tried. -/
def Answered (s : ExecutionSettings) (answer : Oracle) (x : Settled) : Prop :=
  ∀ call a, x.fate = .tried call a →
    ∃ text, x.job.patched s = .ok text ∧ a = answer text (.forMutant x.job.mutant)

theorem Follows.tidy {answer : Oracle} {s : State} {a : Action} (h : Follows answer s a) :
    Tidy s a := by
  cases a with
  | finish => exact h.1
  | _ => exact trivial

section Answered

variable {sched : Scheduler} {workers : Nat} {stream : List Offer} {d : Disk} {s t : State}
  {a : Action} {answer : Oracle}

/-- A runner that keeps to its answers gives the one for the text that is to be tried. -/
private theorem answered_of_follows {slot : Nat} {w : Worker} {j : Job} {call : AdapterCall}
    {given : AdapterAnswer} {disk : Disk} (conduct : Conducted sched.settings s)
    (asked : ∀ x ∈ s.calls, Finds sched.settings x x.2.disk)
    (working : ∀ w ∈ s.workers, ∀ x ∈ w.calling, Finds sched.settings x s.disk)
    (called : ∀ w ∈ s.workers, ∀ x ∈ w.calling, x ∈ s.calls)
    (here : s.workers[slot]? = some w) (phase : w.phase = .running j call)
    (follows : Follows answer s (.finish slot given disk)) :
    Answered sched.settings answer ⟨j, .tried call given⟩ := by
  have calling : (j, call) ∈ w.calling := by simp [Worker.calling, phase]
  have member := List.mem_of_getElem? here
  have waits : (j, call) ∈ s.callAt slot := by rwa [State.callAt, here]
  have made := called w member _ calling
  obtain ⟨_, -, -, request⟩ := conduct.asked _ made
  have selected : call.request.selection = .forMutant j.mutant := by
    rw [show call.request = _ from request]
    rfl
  rintro _ _ ⟨⟩
  rcases follows.2 _ waits with first | last
  · obtain ⟨text, patched, found⟩ := asked _ made
    exact ⟨text, patched, selected ▸ first text found⟩
  · obtain ⟨text, patched, found⟩ := working w member _ calling
    exact ⟨text, patched, selected ▸ last text found⟩

/-- Whoever asks about a mutant gets the answer for its text. -/
theorem ReachableBy.answered (run : ReachableBy sched (Follows answer) (.initial workers stream d) s)
    (inside : SourcesStayInside stream) :
    ∀ x ∈ s.history.worked, Answered sched.settings answer x := by
  refine run.invariant (P := fun s => ∀ x ∈ s.history.worked, Answered sched.settings answer x)
    (fun x member => by cases member) fun {s t a} before follows m h => ?_
  have settle {slot : Nat} {x : Settled} (new : Answered sched.settings answer x) :
      ∀ y ∈ History.worked (s.history ++ [.settled slot x]), Answered sched.settings answer y := by
    intro y member
    rw [History.worked_snoc, List.mem_append] at member
    rcases member with old | last
    · exact h y old
    · obtain rfl := List.mem_singleton.mp last
      exact new
  cases m with
  | passOver => exact settle fun _ _ none_ => by cases none_
  | giveUp => exact settle fun _ _ none_ => by cases none_
  | finish given disk here phase =>
    have tidy := before.imp fun _ _ => Follows.tidy
    obtain ⟨asked, working⟩ := tidy.finds inside
    have reached := before.reachable
    exact settle (answered_of_follows reached.conducted asked working
      reached.accounted.calling here phase follows)
  | _ => simpa using h

end Answered

def dueOutcome (s : ExecutionSettings) (answer : Oracle) (j : Job) : Outcome :=
  match j.patched s with
  | .error cause => .unprepared (.notPatched j.source.path j.mutant.path cause)
  | .ok text => s.judge (answer text (.forMutant j.mutant))

theorem Undisturbed.worked {s : ExecutionSettings} {answer : Oracle} {u : State}
    (undisturbed : Undisturbed u.history) (c : Conducted s u) {x : Settled}
    (member : x ∈ u.history.worked) (answered : Answered s answer x) :
    x.result s = x.job.result s (dueOutcome s answer x.job) := by
  have warranted := c.worked x member
  have unhindered := undisturbed.unhindered x member
  obtain ⟨j, fate⟩ := x
  refine congrArg (j.result s) ?_
  cases fate with
  | uncovered => exact warranted.elim
  | ignored => exact warranted.elim
  | passedOver => exact (undisturbed.uncancelled warranted).elim
  | unprepared e =>
    obtain ⟨slot, d, stage, failed⟩ := warranted
    cases e with
    | notPatched f p cause =>
      have failed : s.advance? slot j d stage = some (.error (.notPatched f p cause)) := failed
      obtain ⟨patched, rfl, rfl⟩ := ExecutionSettings.advance?_notPatched failed
      rw [dueOutcome, patched]
      rfl
    | _ => cases unhindered
  | tried call a =>
    obtain ⟨text, patched, given⟩ := answered call a rfl
    have patched : j.patched s = .ok text := patched
    rw [dueOutcome, patched, Fate.outcome, given]

namespace Sample

/-- A run that ends with a report, without having been disturbed. -/
private theorem ended {sched : Scheduler} {workers : Nat} {stream : List Offer} {s : State}
    (run : Reachable sched (.initial workers stream {}) s) (h : s.isCancelled = false ∧
      s.report.isSome = true ∧ ∀ x ∈ s.history.worked, x.fate.isHindered = false) :
    (∃ r, s.report = some r) ∧ Undisturbed s.history :=
  ⟨Option.isSome_iff_exists.mp h.2.1, run.controlled.uncancelled h.1, h.2.2⟩

end Sample

namespace Sample

end Sample

end Scheduler
end MutationTesting
