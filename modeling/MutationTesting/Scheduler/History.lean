import MutationTesting.Execution.Trial
import MutationTesting.Mutant.Generation

/-! What happens in a run, in the order in which it happens: the items that are looked at, the jobs
on their way to the workers, the calls of the runner, and how each mutant ends. -/
namespace MutationTesting.Scheduler

inductive Fate where
  /-- No test covers it, and only covered code is tried. -/
  | uncovered
  /-- Its operator is ignored where it stands. -/
  | ignored
  /-- The run was cancelled before a worker began with it. -/
  | passedOver
  /-- It could not be put into a workspace. -/
  | unprepared (e : WorkspaceError)
  /-- The runner was asked. -/
  | tried (call : AdapterCall) (answer : AdapterAnswer)

namespace Fate

def outcome (s : ExecutionSettings) : Fate → Outcome
  | uncovered => .notExecuted .notCovered "no test covers this code"
  | ignored => .notExecuted .skipped "operator ignored here by configuration"
  | passedOver => .notExecuted .skipped "run cancelled"
  | unprepared e => .unprepared e
  | tried _ answer => s.judge answer

def call? : Fate → Option AdapterCall
  | tried call _ => some call
  | _ => none

end Fate

structure Settled where
  job : Job
  fate : Fate

namespace Settled

def result (s : ExecutionSettings) (x : Settled) : MutantResult := x.job.result s (x.fate.outcome s)

def call? (x : Settled) : Option (Job × AdapterCall) := x.fate.call?.map fun call => (x.job, call)

end Settled

/-- An item of the stream of a run, and the file it was found in. -/
structure Offer where
  source : SourceFile
  item : Generated

namespace Offer

/-- The mutant of an item, whatever is to become of it. -/
def subject? (o : Offer) : Option Job := o.item.mutant?.map fun m => ⟨m, o.source⟩

def job? (o : Offer) : Option Job :=
  match o.item with
  | .mutant m => some ⟨m, o.source⟩
  | _ => none

def aside? (o : Offer) : Option Settled :=
  match o.item with
  | .notCovered m => some ⟨⟨m, o.source⟩, .uncovered⟩
  | .skipped m => some ⟨⟨m, o.source⟩, .ignored⟩
  | _ => none

end Offer

/-- All items of all sources, in order. -/
def offers (rules : GenerationRules) (sources : List SourceFile) : List Offer :=
  sources.flatMap fun f => (rules.generate f).map fun item => ⟨f, item⟩

inductive Event where
  /-- The dispatcher took an item from the stream. -/
  | looked (o : Offer)
  /-- A job entered the queue. -/
  | queued (j : Job)
  /-- A worker took a job from the queue. -/
  | taken (slot : Nat) (j : Job)
  /-- A worker came to a stage of its preparations. -/
  | reached (slot : Nat) (stage : Stage)
  /-- A worker asked the runner about its job. -/
  | asked (slot : Nat) (j : Job) (call : AdapterCall)
  /-- A worker is done with its job. -/
  | settled (slot : Nat) (x : Settled)
  | cancelled

namespace Event

@[simp] def offer? : Event → Option Offer
  | looked o => some o
  | _ => none

@[simp] def queued? : Event → Option Job
  | queued j => some j
  | _ => none

@[simp] def taken? : Event → Option Job
  | taken _ j => some j
  | _ => none

@[simp] def call? : Event → Option (Job × AdapterCall)
  | asked _ j call => some (j, call)
  | _ => none

@[simp] def settled? : Event → Option Settled
  | settled _ x => some x
  | _ => none

end Event

abbrev History := List Event

namespace History

/-- Items that the dispatcher has looked at. -/
def offers (h : History) : List Offer := h.filterMap Event.offer?

def queued (h : History) : List Job := h.filterMap Event.queued?

def taken (h : History) : List Job := h.filterMap Event.taken?

/-- Calls of the runner, with the jobs they were made for. -/
def calls (h : History) : List (Job × AdapterCall) := h.filterMap Event.call?

def worked (h : History) : List Settled := h.filterMap Event.settled?

/-- Mutants that are done with: those that no worker had to see, then those of the workers. -/
def settled (h : History) : List Settled := h.offers.filterMap Offer.aside? ++ h.worked

end History
end MutationTesting.Scheduler
