import MutationTesting.Scheduler.Basic
import MutationTesting.Scheduler.History
import MutationTesting.Outcome.Report

/-! The scheduler as a machine.

A dispatcher looks at the items of the stream one after the other and sends what is to be tried
into a queue of bounded length. Any number of workers take jobs from the queue. Each action is one
move of one of them, or the cancellation of the run, which may come at any moment; a run is any
sequence of enabled actions. A worker prepares its job in several moves and asks the runner in one
more, and between any two of them, as also while the runner is at work, others may change the disk. -/
namespace MutationTesting.Scheduler

inductive Phase where
  /-- Waits for a job. -/
  | waiting
  /-- Took a job, and has not yet asked whether the run was cancelled. -/
  | holding (job : Job)
  | preparing (job : Job) (stage : Stage)
  /-- The runner is at work. -/
  | running (job : Job) (call : AdapterCall)
  /-- Found the queue closed. -/
  | stopped

structure Worker where
  phase : Phase := .waiting
  results : List MutantResult := []

def Worker.finished (w : Worker) (r : MutantResult) : Worker := ⟨.waiting, w.results ++ [r]⟩

structure State where
  /-- Items the dispatcher has not yet looked at. -/
  stream : List Offer
  /-- The job the dispatcher is about to send. -/
  held : Option Job := none
  /-- The dispatcher may still send. -/
  isOpen : Bool := true
  /-- Jobs no worker has taken, the oldest first. -/
  queue : List Job := []
  workers : List Worker
  /-- Results of mutants that are not tried. -/
  untried : List MutantResult := []
  diagnostics : List Diagnostic := []
  isCancelled : Bool := false
  disk : Disk
  /-- What has happened so far. -/
  history : History := []
  report : Option Report := none

namespace State

def initial (workers : Nat) (stream : List Offer) (disk : Disk) : State where
  stream
  workers := List.replicate workers {}
  disk

/-- All results so far, those of the dispatcher first. -/
def results (s : State) : List MutantResult :=
  s.untried ++ s.workers.flatMap Worker.results

def calls (s : State) : List (Job × AdapterCall) := s.history.calls

@[simp] def setWorker (s : State) (slot : Nat) (w : Worker) : State :=
  { s with workers := s.workers.set slot w }

@[simp] def note (s : State) (e : Event) : State := { s with history := s.history ++ [e] }

@[simp] def cancel (s : State) : State := { s with isCancelled := true }.note .cancelled

/-- A worker is done with a mutant and waits again. -/
@[simp] def settle (s : State) (settings : ExecutionSettings) (slot : Nat) (w : Worker) (x : Settled) :
    State :=
  (s.setWorker slot (w.finished (x.result settings))).note (.settled slot x)

end State

inductive Action where
  /-- The dispatcher looks at the next item; it closes the queue when there is none or the run is
  cancelled. -/
  | look
  /-- The dispatcher puts the job it holds into the queue. -/
  | send
  /-- A worker takes the oldest job. -/
  | take (slot : Nat)
  /-- A worker finds the queue empty and closed. -/
  | stop (slot : Nat)
  /-- A worker begins with its job, or passes it over if the run is cancelled. -/
  | begin (slot : Nat)
  /-- A worker comes one stage further with its job, or gives it up. -/
  | prepare (slot : Nat)
  /-- A worker that has prepared its job asks the runner. -/
  | ask (slot : Nat)
  /-- The runner of a worker is done. -/
  | finish (slot : Nat) (answer : AdapterAnswer) (disk : Disk)
  | cancel
  /-- All workers have stopped, and the report is made. -/
  | conclude

/-- What the dispatcher does with an item: it holds a job, puts a result aside or keeps a fault. -/
@[simp] def dispatch (sched : Scheduler) (s : State) (o : Offer) : State :=
  { s with
    held := o.job?
    untried := s.untried ++ (o.aside?.map fun x => x.result sched.settings).toList
    diagnostics := s.diagnostics ++ o.item.diagnostic?.toList }

def look? (sched : Scheduler) (s : State) : Option State :=
  match s.isOpen, s.held, s.stream with
  | true, none, [] => some { s with isOpen := false }
  | true, none, o :: rest =>
    if s.isCancelled then some { s with isOpen := false }
    else some (dispatch sched (State.note { s with stream := rest } (.looked o)) o)
  | _, _, _ => none

def send? (sched : Scheduler) (s : State) : Option State :=
  match s.held with
  | some j =>
    if s.queue.length < sched.lookahead then
      some (State.note { s with held := none, queue := s.queue ++ [j] } (.queued j))
    else none
  | none => none

def take? (s : State) (slot : Nat) : Option State :=
  match s.workers[slot]?, s.queue with
  | some ⟨.waiting, results⟩, j :: rest =>
    let s := { s with queue := rest }
    some ((s.setWorker slot ⟨.holding j, results⟩).note (.taken slot j))
  | _, _ => none

def stop? (s : State) (slot : Nat) : Option State :=
  match s.workers[slot]?, s.queue, s.isOpen with
  | some ⟨.waiting, results⟩, [], false => some (s.setWorker slot ⟨.stopped, results⟩)
  | _, _, _ => none

def begin? (sched : Scheduler) (s : State) (slot : Nat) : Option State :=
  match s.workers[slot]? with
  | some w =>
    match w.phase with
    | .holding j =>
      if s.isCancelled then some (s.settle sched.settings slot w ⟨j, .passedOver⟩)
      else some (s.setWorker slot { w with phase := .preparing j .bare })
    | _ => none
  | none => none

def prepare? (sched : Scheduler) (s : State) (slot : Nat) : Option State :=
  match s.workers[slot]? with
  | some w =>
    match w.phase with
    | .preparing j stage =>
      match sched.settings.advance? slot j s.disk stage with
      | some (.ok (next, disk)) =>
        let s := { s with disk }
        some ((s.setWorker slot { w with phase := .preparing j next }).note (.reached slot next))
      | some (.error e) =>
        let s := { s with disk := stage.abandon s.disk }
        some (s.settle sched.settings slot w ⟨j, .unprepared e⟩)
      | none => none
    | _ => none
  | none => none

def ask? (sched : Scheduler) (s : State) (slot : Nat) : Option State :=
  match s.workers[slot]? with
  | some w =>
    match w.phase with
    | .preparing j (.placed workspace artifact) =>
      let call : AdapterCall := ⟨sched.settings.request j workspace artifact, s.disk⟩
      some ((s.setWorker slot { w with phase := .running j call }).note (.asked slot j call))
    | _ => none
  | none => none

def finish? (sched : Scheduler) (s : State) (slot : Nat) (answer : AdapterAnswer) (disk : Disk) :
    Option State :=
  match s.workers[slot]? with
  | some w =>
    match w.phase with
    | .running j call =>
      let s := { s with disk := disk.removeAt call.request.workspace }
      some (s.settle sched.settings slot w ⟨j, .tried call answer⟩)
    | _ => none
  | none => none

def Worker.isStopped (w : Worker) : Bool :=
  match w.phase with
  | .stopped => true
  | _ => false

def conclude? (sched : Scheduler) (s : State) : Option State :=
  if !s.isOpen && s.report.isNone && s.workers.all Worker.isStopped then
    let report := Report.ofResults s.results s.diagnostics s.isCancelled sched.policy
    some { s with report := some report }
  else none

def step? (sched : Scheduler) (s : State) : Action → Option State
  | .look => look? sched s
  | .send => send? sched s
  | .take slot => take? s slot
  | .stop slot => stop? s slot
  | .begin slot => begin? sched s slot
  | .prepare slot => prepare? sched s slot
  | .ask slot => ask? sched s slot
  | .finish slot answer disk => finish? sched s slot answer disk
  | .cancel => some s.cancel
  | .conclude => conclude? sched s

/-- States that a run can reach from its beginning. -/
inductive Reachable (sched : Scheduler) (start : State) : State → Prop where
  | start : Reachable sched start start
  | step {s t : State} (a : Action) :
    Reachable sched start s → step? sched s a = some t → Reachable sched start t

end MutationTesting.Scheduler
