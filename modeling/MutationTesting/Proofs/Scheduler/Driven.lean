import MutationTesting.Proofs.Scheduler.Move
import MutationTesting.Scheduler.Run

/-! The order of moves in which runs are made is one of those that are possible, so what holds in
every reachable state holds of the report that a run gives. -/
namespace MutationTesting.Scheduler

section

variable {sched : Scheduler} {adapter : Adapter} {start s : State} {a : Action}

private theorem firstMove?_eq_some {move? : Nat → Worker → Option Action}
    (h : firstMove? s move? = some a) :
    ∃ slot w, s.workers[slot]? = some w ∧ move? slot w = some a := by
  obtain ⟨⟨w, slot⟩, member, found⟩ := List.exists_of_findSome?_eq_some h
  exact ⟨slot, w, List.mem_zipIdx_iff_getElem?.mp member, found⟩

private theorem firstMove?_eq_none {move? : Nat → Worker → Option Action}
    (h : firstMove? s move? = none) {slot : Nat} {w : Worker} (here : s.workers[slot]? = some w) :
    move? slot w = none :=
  List.findSome?_eq_none_iff.mp h (w, slot) (List.mem_zipIdx_iff_getElem?.mpr here)

/-- Who makes the next move. -/
theorem nextMove_cases (sched : Scheduler) (adapter : Adapter) (s : State) :
    dispatcherMove? sched s = some (nextMove sched adapter s) ∨
    (∃ slot w, s.workers[slot]? = some w ∧
      (workerMove? s slot w = some (nextMove sched adapter s) ∨
        runnerMove? adapter s slot w = some (nextMove sched adapter s))) ∨
    nextMove sched adapter s = .conclude ∧ dispatcherMove? sched s = none ∧
      ∀ slot w, s.workers[slot]? = some w →
        workerMove? s slot w = none ∧ runnerMove? adapter s slot w = none := by
  unfold nextMove
  cases dispatcher : dispatcherMove? sched s with
  | some a => exact .inl rfl
  | none =>
    cases worker : firstMove? s (workerMove? s) with
    | some a =>
      obtain ⟨slot, w, here, moves⟩ := firstMove?_eq_some worker
      exact .inr (.inl ⟨slot, w, here, .inl moves⟩)
    | none =>
      cases runner : firstMove? s (runnerMove? adapter s) with
      | some a =>
        obtain ⟨slot, w, here, moves⟩ := firstMove?_eq_some runner
        exact .inr (.inl ⟨slot, w, here, .inr moves⟩)
      | none =>
        exact .inr (.inr ⟨rfl, rfl, fun slot w here =>
          ⟨firstMove?_eq_none worker here, firstMove?_eq_none runner here⟩⟩)

theorem runnerMove?_eq_some {slot : Nat} {w : Worker} (h : runnerMove? adapter s slot w = some a) :
    ∃ j call, w.phase = .running j call ∧
      (a = .cancel ∧ s.isCancelled = false ∨
        a = .finish slot (adapter call.request s.disk).answer (adapter call.request s.disk).disk) := by
  unfold runnerMove? at h
  split at h
  · next j call phase =>
    refine ⟨j, call, phase, ?_⟩
    dsimp only at h
    split at h
    · next cancels =>
      rw [Bool.and_eq_true, Bool.not_eq_true'] at cancels
      exact .inl ⟨(Option.some.inj h).symm, cancels.2⟩
    · exact .inr (Option.some.inj h).symm
  · cases h

/-- Where every next move is allowed, so is the run. -/
theorem reachableBy_runMoves {allowed : State → Action → Prop} (moves : Nat)
    (may : ∀ s, allowed s (nextMove sched adapter s)) (h : ReachableBy sched allowed start s) :
    ReachableBy sched allowed start (runMoves sched adapter moves s) := by
  induction moves generalizing s with
  | zero => exact h
  | succ moves ih =>
    rw [runMoves]
    split
    · next t step => exact ih (.step _ h (may s) step)
    · exact h

theorem reachable_runMoves (adapter : Adapter) (moves : Nat) (h : Reachable sched start s) :
    Reachable sched start (runMoves sched adapter moves s) := by
  have free : ReachableBy sched (fun _ _ => True) s (runMoves sched adapter moves s) :=
    reachableBy_runMoves moves (fun _ => trivial) .start
  exact h.trans free.reachable

private theorem reachable_lastState (sched : Scheduler) (adapter : Adapter) (stream : List Offer)
    (cancelled : Bool) (d : Disk) : Reachable sched (.initial sched.workers stream d)
      (lastState sched adapter stream cancelled d) := by
  refine reachable_runMoves adapter _ ?_
  split
  · exact .step .cancel .start rfl
  · exact .start

end

/-- A run with a report has reached a state with that report. -/
theorem reachable_of_run {sched : Scheduler} {adapter : Adapter} {sources : List SourceFile}
    {registry : Registry} {coverage : Option Coverage} {cancelled : Bool} {d : Disk} {r : Report}
    (h : (sched.run adapter sources registry coverage cancelled d).report = .ok r) :
    ∃ d' s, s.report = some r ∧
      Reachable sched (.initial sched.workers
        (offers ⟨registry, coverage, sched.onlyCovered⟩ sources) d') s := by
  unfold run at h
  split at h
  · cases h
  · next checked _ =>
    generalize (if sched.baseline then sched.runBaseline adapter sources checked
      else (.ok (), [], checked)) = tried at h
    obtain ⟨verdict, calls, d'⟩ := tried
    cases verdict with
    | error e => cases h
    | ok u =>
      refine ⟨d', _, ?_, reachable_lastState sched adapter _ cancelled d'⟩
      dsimp only at h
      split at h
      · next r' made => exact (Except.ok.inj h) ▸ made
      · cases h

/-! A small run to look at: one file with two mutants that a test covers and one that none does. -/
namespace Sample

def settings : ExecutionSettings where
  timeoutSeconds := 10
  maxOutputBytes := 100
  errorPatterns := ["fatal"]
  failingTest := .empty
  printer := {}
  workspaceRoot := "w"
  projectRoot := none

def sched : Scheduler where
  settings
  workers := 2
  lookahead := 1
  onlyCovered := true
  baseline := false
  policy := ⟨true, false, false⟩

private def sum (name : String) (line start : Nat) : Node :=
  { kind := .exprStmt, children := [
    { kind := .binary .plus, children := [.leaf (.variableRef name), .leaf (.int 2)],
      span := some ⟨start, start + 6, line, line⟩ }] }

def file : SourceFile where
  path := "a"
  text := "$a + 2;\n$b + 2;\n$c + 2;"
  ast := { kind := .module, children := [sum "$a" 1 0, sum "$b" 2 8, sum "$c" 3 16] }

def rules : GenerationRules where
  registry := ⟨[.arithmetic .plus], []⟩
  coverage := some ⟨[("a", [(1, ["t"]), (2, ["t", "u"])])]⟩
  onlyCovered := true

/-- The tests notice a change in the second line only. -/
def answer (text : String) (_ : TestSelection) : AdapterAnswer :=
  .report { passed := !Text.contains text "$b - 2", details := "1 test" }

def reading (answer : String → TestSelection → AdapterAnswer) : Adapter := fun request d =>
  match d.readText request.artifact with
  | .ok text => { answer := answer text request.selection, disk := d }
  | .error e => { answer := .panics e.message, disk := d }

def adapter : Adapter := reading answer

/-- The state at the end of the run with so many workers and so long a queue. -/
def last (workers lookahead : Nat) : State :=
  let start := State.initial workers (offers rules [file]) {}
  runMoves { sched with workers, lookahead } adapter start.movesLeft start

theorem reachable_last (workers lookahead : Nat) :
    Reachable { sched with workers, lookahead } (.initial workers (offers rules [file]) {})
      (last workers lookahead) :=
  reachable_runMoves adapter _ .start

/-- A runner that cancels the run when it is asked about such a text. -/
def cancelling (part : String) : Adapter := fun request d =>
  { adapter request d with
    cancels := (d.readText request.artifact).toOption.any fun text => Text.contains text part }

/-- The state at the end of the run of one worker that is cancelled then. -/
def lastCancelled (part : String) : State :=
  let start := State.initial 1 (offers rules [file]) {}
  runMoves sched (cancelling part) start.movesLeft start

theorem reachable_lastCancelled (part : String) :
    Reachable sched (.initial 1 (offers rules [file]) {}) (lastCancelled part) :=
  reachable_runMoves (cancelling part) _ .start

end Sample
end MutationTesting.Scheduler
