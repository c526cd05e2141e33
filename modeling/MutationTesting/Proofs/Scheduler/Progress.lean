import Mathlib.Data.List.Basic
import MutationTesting.Proofs.Execution.Preparation
import MutationTesting.Proofs.Scheduler.Driven
import MutationTesting.Proofs.Scheduler.Ending

/-! Runs come to their end: each move leaves fewer moves to make, and until the report is made there
is a next one. -/
namespace MutationTesting.Scheduler

/-- What changing one element does to a sum. -/
private theorem foldr_add_set {α : Type} (f : α → Nat) {xs : List α} {i : Nat} {x : α} (x' : α)
    (here : xs[i]? = some x) :
    (xs.set i x').foldr (fun a n => f a + n) 0 + f x = xs.foldr (fun a n => f a + n) 0 + f x' := by
  induction xs generalizing i with
  | nil => cases here
  | cons y xs ih =>
    cases i with
    | zero =>
      obtain rfl : y = x := by simpa using here
      rw [List.set_cons_zero, List.foldr_cons, List.foldr_cons]
      omega
    | succ i =>
      have rest := ih (by simpa using here)
      rw [List.set_cons_succ, List.foldr_cons, List.foldr_cons]
      omega

namespace Move

variable {sched : Scheduler} {s t : State} {a : Action}

private theorem movesLeft_setWorker {slot : Nat} {w : Worker} (here : s.workers[slot]? = some w)
    (w' : Worker) :
    (s.setWorker slot w').movesLeft + w.phase.movesLeft = s.movesLeft + w'.phase.movesLeft := by
  have sum := foldr_add_set (fun w => w.phase.movesLeft) w' here
  simp only [State.movesLeft, State.setWorker]
  omega

private theorem movesLeft_lt_of_set {slot : Nat} {w w' : Worker}
    (here : s.workers[slot]? = some w) (kept : t.movesLeft = (s.setWorker slot w').movesLeft)
    (less : w'.phase.movesLeft < w.phase.movesLeft) : t.movesLeft < s.movesLeft := by
  have sum := movesLeft_setWorker here w'
  omega

/-- Only a cancellation can be repeated. -/
private theorem movesLeft_lt (m : Move sched s a t) (first : a = .cancel → s.isCancelled = false) :
    t.movesLeft < s.movesLeft := by
  cases m with
  | close canSend => simp [State.movesLeft, canSend]
  | @look o rest canSend free goesOn next =>
    have one : o.job?.toList.length ≤ 1 := Option.length_toList_le
    simp only [State.movesLeft, dispatch, State.note, free, next, Option.toList_none,
      List.length_nil, List.length_cons]
    omega
  | send held =>
    simp only [State.movesLeft, State.note, held, Option.toList_none, Option.toList_some,
      List.length_nil, List.length_append, List.length_singleton]
    omega
  | @take slot w j rest here phase next =>
    have set := movesLeft_setWorker (s := { s with queue := rest }) here { w with phase := .holding j }
    have shorter : State.movesLeft { s with queue := rest } + 7 = s.movesLeft := by
      simp only [State.movesLeft, next, List.length_cons]
      omega
    simp only [phase, Phase.movesLeft] at set
    change (State.setWorker { s with queue := rest } slot { w with phase := .holding j }).movesLeft < _
    omega
  | stop here phase => exact movesLeft_lt_of_set here rfl (by simp [phase, Phase.movesLeft])
  | passOver here phase =>
    exact movesLeft_lt_of_set here rfl (by simp [phase, Phase.movesLeft, Worker.finished])
  | begin here phase => exact movesLeft_lt_of_set here rfl (by simp [phase, Phase.movesLeft])
  | advance here phase ready =>
    refine movesLeft_lt_of_set here rfl ?_
    rcases ExecutionSettings.advance?_eq_ok ready with
      ⟨_, rfl, rfl, -⟩ | ⟨_, rfl, rfl, -⟩ | ⟨_, _, rfl, rfl, -⟩
    all_goals simp [phase, Phase.movesLeft]
  | @giveUp slot w j stage e here phase =>
    refine movesLeft_lt_of_set here rfl ?_
    cases stage <;> simp [phase, Phase.movesLeft, Worker.finished]
  | ask here phase => exact movesLeft_lt_of_set here rfl (by simp [phase, Phase.movesLeft])
  | finish _ _ here phase =>
    exact movesLeft_lt_of_set here rfl (by simp [phase, Phase.movesLeft, Worker.finished])
  | cancel => simp [State.movesLeft, first rfl]
  | conclude _ unmade => simp [State.movesLeft, unmade]

end Move

section Enabled

variable {sched : Scheduler} {adapter : Adapter} {workers : Nat} {s t : State} {a : Action}

private theorem dispatcher_moves (h : dispatcherMove? sched s = some a) :
    (∃ t, Move sched s a t) ∧ a ≠ .cancel := by
  unfold dispatcherMove? at h
  split at h
  · next j held =>
    split at h
    · next room =>
      obtain rfl := Option.some.inj h
      exact ⟨⟨_, .send held room⟩, by simp⟩
    · cases h
  · next free =>
    split at h
    · next canSend =>
      obtain rfl := Option.some.inj h
      refine ⟨?_, by simp⟩
      cases next : s.stream with
      | nil => exact ⟨_, .close canSend free (.inl next)⟩
      | cons o rest =>
        cases cancelled : s.isCancelled with
        | true => exact ⟨_, .close canSend free (.inr cancelled)⟩
        | false => exact ⟨_, .look canSend free cancelled next⟩
    · cases h

private theorem worker_moves {slot : Nat} {w : Worker} (here : s.workers[slot]? = some w)
    (h : workerMove? s slot w = some a) : (∃ t, Move sched s a t) ∧ a ≠ .cancel := by
  unfold workerMove? at h
  split at h
  · next phase =>
    split at h
    · next waiting =>
      obtain rfl := Option.some.inj h
      cases first : s.queue with
      | nil => simp [first] at waiting
      | cons j rest => exact ⟨⟨_, .take here phase first⟩, by simp⟩
    · next empty =>
      split at h
      · next closed =>
        obtain rfl := Option.some.inj h
        exact ⟨⟨_, .stop here phase (by simpa using empty) (by simpa using closed)⟩, by simp⟩
      · cases h
  · next j phase =>
    obtain rfl := Option.some.inj h
    refine ⟨?_, by simp⟩
    cases cancelled : s.isCancelled with
    | true => exact ⟨_, .passOver here phase cancelled⟩
    | false => exact ⟨_, .begin here phase cancelled⟩
  · next phase =>
    obtain rfl := Option.some.inj h
    exact ⟨⟨_, .ask here phase rfl⟩, by simp⟩
  · next j stage unplaced phase =>
    obtain rfl := Option.some.inj h
    refine ⟨?_, by simp⟩
    cases next : sched.settings.advance? slot j s.disk stage with
    | none =>
      cases stage with
      | placed workspace artifact => exact (unplaced workspace artifact rfl).elim
      | _ => simp [ExecutionSettings.advance?] at next
    | some r =>
      cases r with
      | ok r => exact ⟨_, .advance here phase next⟩
      | error e => exact ⟨_, .giveUp here phase next⟩
  · cases h
  · cases h

private theorem runner_moves {slot : Nat} {w : Worker} (here : s.workers[slot]? = some w)
    (h : runnerMove? adapter s slot w = some a) :
    (∃ t, Move sched s a t) ∧ (a = .cancel → s.isCancelled = false) := by
  obtain ⟨j, call, phase, ⟨rfl, goesOn⟩ | rfl⟩ := runnerMove?_eq_some h
  · exact ⟨⟨_, .cancel⟩, fun _ => goesOn⟩
  · exact ⟨⟨_, .finish _ _ here phase⟩, fun same => by cases same⟩

/-- A worker that cannot move waits for the dispatcher or has stopped. -/
private theorem phase_of_stuck {slot : Nat} {w : Worker} (worker : workerMove? s slot w = none)
    (runner : runnerMove? adapter s slot w = none) :
    s.queue = [] ∧ s.isOpen = true ∨ w.phase = .stopped := by
  obtain ⟨phase, results⟩ := w
  cases phase with
  | waiting =>
    left
    cases queue : s.queue <;> cases isOpen : s.isOpen <;> simp [workerMove?, queue, isOpen] at worker
    exact ⟨rfl, rfl⟩
  | holding j => cases worker
  | preparing j stage => cases stage <;> cases worker
  | running j call =>
    dsimp only [runnerMove?] at runner
    split at runner <;> cases runner
  | stopped => exact .inr rfl

/-- When nobody can move all workers have stopped. -/
private theorem stopped_of_stuck (control : Controlled sched workers s) (some_worker : 0 < workers)
    (some_room : 0 < sched.lookahead) (dispatcher : dispatcherMove? sched s = none)
    (stuck : ∀ slot w, s.workers[slot]? = some w →
      workerMove? s slot w = none ∧ runnerMove? adapter s slot w = none) :
    s.isOpen = false ∧ ∀ w ∈ s.workers, w.phase = .stopped := by
  have phases : ∀ w ∈ s.workers, s.queue = [] ∧ s.isOpen = true ∨ w.phase = .stopped := by
    intro w member
    obtain ⟨slot, here⟩ := List.mem_iff_getElem?.mp member
    exact phase_of_stuck (stuck slot w here).1 (stuck slot w here).2
  unfold dispatcherMove? at dispatcher
  split at dispatcher
  · next j held =>
    -- The queue is full, so every worker has stopped, and none does while the queue has a job.
    split at dispatcher
    · cases dispatcher
    · next full =>
      have within : 0 < s.workers.length := by rwa [control.workers_length]
      have first := List.getElem_mem within
      have empty : s.queue = [] := by
        rcases phases _ first with waits | stopped
        · exact waits.1
        · exact (control.stopped _ first stopped).2
      rw [empty] at full
      exact absurd some_room full
  · split at dispatcher
    · cases dispatcher
    · next closed =>
      refine ⟨by simpa using closed, fun w member => ?_⟩
      rcases phases w member with ⟨-, isOpen⟩ | stopped
      · exact absurd isOpen closed
      · exact stopped

/-- Until the report is made there is a next move, and it leaves fewer moves to make. -/
private theorem exists_nextMove (adapter : Adapter) (control : Controlled sched workers s)
    (some_worker : 0 < workers) (some_room : 0 < sched.lookahead) (unfinished : s.report = none) :
    ∃ t, Move sched s (nextMove sched adapter s) t ∧ t.movesLeft < s.movesLeft := by
  have onward : (∃ t, Move sched s (nextMove sched adapter s) t) ∧
      (nextMove sched adapter s = .cancel → s.isCancelled = false) := by
    rcases nextMove_cases sched adapter s with first | ⟨slot, w, here, first | first⟩ |
      ⟨last, dispatcher, stuck⟩
    · obtain ⟨moves, other⟩ := dispatcher_moves first
      exact ⟨moves, fun same => absurd same other⟩
    · obtain ⟨moves, other⟩ := worker_moves here first
      exact ⟨moves, fun same => absurd same other⟩
    · exact runner_moves here first
    · obtain ⟨closed, stopped⟩ :=
        stopped_of_stuck control some_worker some_room dispatcher stuck
      rw [last]
      exact ⟨⟨_, .conclude closed unfinished stopped⟩, fun same => by cases same⟩
  obtain ⟨⟨t, m⟩, first⟩ := onward
  exact ⟨t, m, m.movesLeft_lt first⟩

/-- A report is not made twice. -/
private theorem Move.report_of_made {r : Report} (m : Move sched s a t) (made : s.report = some r) :
    t.report = some r := by
  cases m with
  | conclude _ unmade => cases made.symm.trans unmade
  | _ => exact made

private theorem report_runMoves_of_made {r : Report} (moves : Nat) (made : s.report = some r) :
    (runMoves sched adapter moves s).report = some r := by
  induction moves generalizing s with
  | zero => exact made
  | succ moves ih =>
    rw [runMoves]
    split
    · next t step => exact ih ((move_of_step? step).report_of_made made)
    · exact made

/-- As many moves as are left lead to the report. -/
private theorem exists_report_of_runMoves (control : Controlled sched workers s)
    (some_worker : 0 < workers) (some_room : 0 < sched.lookahead) {moves : Nat}
    (enough : s.movesLeft ≤ moves) :
    ∃ r, (runMoves sched adapter moves s).report = some r := by
  induction moves generalizing s with
  | zero =>
    have none_left : s.report.isNone.toNat = 0 := by
      unfold State.movesLeft at enough
      omega
    cases made : s.report with
    | none => simp [made] at none_left
    | some r => exact ⟨r, made⟩
  | succ moves ih =>
    cases made : s.report with
    | some r => exact ⟨r, report_runMoves_of_made _ made⟩
    | none =>
      obtain ⟨t, m, less⟩ := exists_nextMove adapter control some_worker some_room made
      rw [runMoves, m.step?]
      exact ih (m.controlled control) (by omega)

end Enabled

variable {sched : Scheduler} {sources : List SourceFile} {registry : Registry} {d checked : Disk}

private theorem exists_report_lastState (adapter : Adapter) (stream : List Offer) (cancelled : Bool)
    (d : Disk) (some_worker : 0 < sched.workers) (some_room : 0 < sched.lookahead) :
    ∃ r, (lastState sched adapter stream cancelled d).report = some r := by
  refine exists_report_of_runMoves ?_ some_worker some_room (Nat.le_refl _)
  split
  · exact (Reachable.step .cancel .start rfl).controlled
  · exact Reachable.start.controlled

/-- A run that passes its checks is rejected by the tests of the unmodified sources, or comes to a
report. -/
private theorem report_of_sound (adapter : Adapter) (coverage : Option Coverage) (cancelled : Bool)
    (some_worker : 0 < sched.workers) (some_room : 0 < sched.lookahead)
    (sound : sched.preflight sources registry d = .ok checked) :
    (∃ e, sched.baseline = true ∧ (sched.runBaseline adapter sources checked).1 = .error e ∧
      (sched.run adapter sources registry coverage cancelled d).report = .error e) ∨
    ∃ r, (sched.run adapter sources registry coverage cancelled d).report = .ok r := by
  have finished (d' : Disk) := exists_report_lastState adapter
    (offers ⟨registry, coverage, sched.onlyCovered⟩ sources) cancelled d' some_worker some_room
  unfold run
  rw [sound]
  dsimp only
  by_cases wanted : sched.baseline = true
  · rw [if_pos wanted]
    obtain ⟨verdict, calls, d'⟩ := sched.runBaseline adapter sources checked
    cases verdict with
    | error e => exact .inl ⟨e, wanted, rfl, rfl⟩
    | ok _ =>
      obtain ⟨r, made⟩ := finished d'
      exact .inr ⟨r, by dsimp only; rw [made]⟩
  · rw [if_neg wanted]
    obtain ⟨r, made⟩ := finished checked
    exact .inr ⟨r, by dsimp only; rw [made]⟩

/-- A run that gets as far as its first mutant comes to a report, whatever the runner does. -/
theorem run_of_accepted (adapter : Adapter) (coverage : Option Coverage) (cancelled : Bool)
    (some_worker : 0 < sched.workers) (some_room : 0 < sched.lookahead)
    (sound : sched.preflight sources registry d = .ok checked)
    (accepted : sched.baseline = true → (sched.runBaseline adapter sources checked).1 = .ok ()) :
    ∃ r, (sched.run adapter sources registry coverage cancelled d).report = .ok r := by
  rcases report_of_sound adapter coverage cancelled some_worker some_room sound with
    ⟨e, wanted, rejected, -⟩ | reported
  · cases rejected.symm.trans (accepted wanted)
  · exact reported

private theorem runBaseline_ne_unfinished (adapter : Adapter) :
    (sched.runBaseline adapter sources d).1 ≠ .error .unfinished := by
  unfold runBaseline
  split
  · exact fun same => by cases same
  · next request disk _ =>
    dsimp only
    unfold baselineAnswer
    split
    · exact mapError_ne_error fun _ same => by cases same
    · exact mapError_ne_error fun _ same => by cases same
    · exact fun same => by cases same

/-- No run ends while there are moves to make. -/
private theorem run_ne_unfinished (adapter : Adapter) (coverage : Option Coverage)
    (cancelled : Bool) (some_worker : 0 < sched.workers) (some_room : 0 < sched.lookahead) :
    (sched.run adapter sources registry coverage cancelled d).report ≠ .error .unfinished := by
  intro unfinished
  cases sound : sched.preflight sources registry d with
  | error e =>
    rw [run, sound] at unfinished
    cases unfinished
  | ok checked =>
    rcases report_of_sound adapter coverage cancelled some_worker some_room sound with
      ⟨e, -, rejected, reported⟩ | ⟨r, reported⟩
    · obtain rfl := Except.error.inj (reported.symm.trans unfinished)
      exact runBaseline_ne_unfinished adapter rejected
    · cases reported.symm.trans unfinished

/-- A scheduler of a configuration has a worker and room for a job. -/
private theorem positive_of_ofConfig {tempDir : Location} {machine : Nat} {c : Config}
    (made : Scheduler.ofConfig tempDir machine c = .ok sched) :
    0 < sched.workers ∧ 0 < sched.lookahead := by
  obtain ⟨_, -, made⟩ := bind_eq_ok.mp made
  obtain ⟨settings, -, made⟩ := bind_eq_ok.mp made
  obtain rfl := Except.ok.inj made
  refine ⟨?_, Nat.lt_of_lt_of_le Nat.one_pos (Nat.le_max_right _ _)⟩
  dsimp only [RunSettings.workerCount]
  split
  · exact Nat.lt_of_lt_of_le Nat.one_pos (Nat.le_max_right _ _)
  · next given => exact Nat.pos_of_ne_zero given

theorem run_of_config_ne_unfinished {tempDir : Location} {machine : Nat} {c : Config}
    (made : Scheduler.ofConfig tempDir machine c = .ok sched) (adapter : Adapter)
    (coverage : Option Coverage) (cancelled : Bool) :
    (sched.run adapter sources registry coverage cancelled d).report ≠ .error .unfinished := by
  obtain ⟨some_worker, some_room⟩ := positive_of_ofConfig made
  exact run_ne_unfinished adapter coverage cancelled some_worker some_room

end MutationTesting.Scheduler
