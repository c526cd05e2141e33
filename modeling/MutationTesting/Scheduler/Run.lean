import MutationTesting.Scheduler.Machine
import MutationTesting.Scheduler.Preflight

/-! Running the machine to its end.

Of all orders in which the moves of a run may happen, this one lets the dispatcher go first
whenever it can move, then the first worker that can move by itself. A runner answers when nothing
else is left to do. -/
namespace MutationTesting.Scheduler

def workerMove? (s : State) (slot : Nat) (w : Worker) : Option Action :=
  match w.phase with
  | .waiting =>
    if !s.queue.isEmpty then some (.take slot)
    else if !s.isOpen then some (.stop slot)
    else none
  | .holding _ => some (.begin slot)
  | .preparing _ (.placed ..) => some (.ask slot)
  | .preparing .. => some (.prepare slot)
  | .running .. | .stopped => none

/-- The next move of a runner. One that cancels the run does so before it answers. -/
def runnerMove? (adapter : Adapter) (s : State) (slot : Nat) (w : Worker) : Option Action :=
  match w.phase with
  | .running _ call =>
    let reply := adapter call.request s.disk
    if reply.cancels && !s.isCancelled then some .cancel
    else some (.finish slot reply.answer reply.disk)
  | _ => none

def firstMove? (s : State) (move? : Nat → Worker → Option Action) : Option Action :=
  s.workers.zipIdx.findSome? fun x => move? x.2 x.1

def dispatcherMove? (sched : Scheduler) (s : State) : Option Action :=
  match s.held with
  | some _ => if s.queue.length < sched.lookahead then some .send else none
  | none => if s.isOpen then some .look else none

/-- The next move; without one left the report is made. -/
def nextMove (sched : Scheduler) (adapter : Adapter) (s : State) : Action :=
  (((dispatcherMove? sched s).or (firstMove? s (workerMove? s))).or
    (firstMove? s (runnerMove? adapter s))).getD .conclude

/-- Makes at most so many moves. -/
def runMoves (sched : Scheduler) (adapter : Adapter) : Nat → State → State
  | 0, s => s
  | moves + 1, s =>
    match step? sched s (nextMove sched adapter s) with
    | some t => runMoves sched adapter moves t
    | none => s

/-- Moves that a worker can make until it has stopped, if it gets no other job. -/
def Phase.movesLeft : Phase → Nat
  | .stopped => 0
  | .waiting => 1
  | .running .. => 2
  | .preparing _ (.placed ..) => 3
  | .preparing _ (.furnished _) => 4
  | .preparing _ (.housed _) => 5
  | .preparing _ .bare => 6
  | .holding _ => 7

/-- Moves that a run can make at most. An item of the stream is looked at, sent and taken before a
worker holds it. One move each closes the queue, cancels the run and makes the report. -/
def State.movesLeft (s : State) : Nat :=
  9 * s.stream.length + 8 * s.held.toList.length + 7 * s.queue.length
    + s.workers.foldr (fun w moves => w.phase.movesLeft + moves) 0
    + s.isOpen.toNat + (!s.isCancelled).toNat + s.report.isNone.toNat

def lastState (sched : Scheduler) (adapter : Adapter) (stream : List Offer) (cancelled : Bool)
    (d : Disk) : State :=
  let start := State.initial sched.workers stream d
  let start := if cancelled then start.cancel else start
  runMoves sched adapter start.movesLeft start

structure RunRecord where
  report : Except Interruption Report
  calls : List AdapterCall
  disk : Disk

/-- Checks, tries the unmodified sources if wanted, and runs all mutants. -/
def run (sched : Scheduler) (adapter : Adapter) (sources : List SourceFile) (registry : Registry)
    (coverage : Option Coverage) (cancelled : Bool) (d : Disk) : RunRecord :=
  match sched.preflight sources registry d with
  | .error e => ⟨.error (.error e), [], d⟩
  | .ok d =>
    let (verdict, calls, d) :=
      if sched.baseline then sched.runBaseline adapter sources d else (.ok (), [], d)
    match verdict with
    | .error e => ⟨.error e, calls, d⟩
    | .ok _ =>
      let rules : GenerationRules := { registry, coverage, onlyCovered := sched.onlyCovered }
      let last := lastState sched adapter (offers rules sources) cancelled d
      let report := match last.report with
        | some r => .ok r
        | none => .error .unfinished
      ⟨report, calls ++ last.calls.map Prod.snd, last.disk⟩

end MutationTesting.Scheduler
