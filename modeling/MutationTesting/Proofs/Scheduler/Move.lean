import MutationTesting.Scheduler.Machine

/-! The moves of a run as a relation: what each one needs and what it leaves behind. -/
namespace MutationTesting.Scheduler

inductive Move (sched : Scheduler) (s : State) : Action → State → Prop where
  | close (canSend : s.isOpen = true) (free : s.held = none)
      (ended : s.stream = [] ∨ s.isCancelled = true) :
    Move sched s .look { s with isOpen := false }
  | look {o : Offer} {rest : List Offer} (canSend : s.isOpen = true) (free : s.held = none)
      (goesOn : s.isCancelled = false) (next : s.stream = o :: rest) :
    Move sched s .look (dispatch sched (State.note { s with stream := rest } (.looked o)) o)
  | send {j : Job} (held : s.held = some j) (room : s.queue.length < sched.lookahead) :
    Move sched s .send (State.note { s with held := none, queue := s.queue ++ [j] } (.queued j))
  | take {slot : Nat} {w : Worker} {j : Job} {rest : List Job} (here : s.workers[slot]? = some w)
      (phase : w.phase = .waiting) (first : s.queue = j :: rest) :
    Move sched s (.take slot)
      ((State.setWorker { s with queue := rest } slot { w with phase := .holding j }).note
        (.taken slot j))
  | stop {slot : Nat} {w : Worker} (here : s.workers[slot]? = some w)
      (phase : w.phase = .waiting) (empty : s.queue = []) (closed : s.isOpen = false) :
    Move sched s (.stop slot) (s.setWorker slot { w with phase := .stopped })
  | passOver {slot : Nat} {w : Worker} {j : Job} (here : s.workers[slot]? = some w)
      (phase : w.phase = .holding j) (cancelled : s.isCancelled = true) :
    Move sched s (.begin slot) (s.settle sched.settings slot w ⟨j, .passedOver⟩)
  | begin {slot : Nat} {w : Worker} {j : Job} (here : s.workers[slot]? = some w)
      (phase : w.phase = .holding j) (goesOn : s.isCancelled = false) :
    Move sched s (.begin slot) (s.setWorker slot { w with phase := .preparing j .bare })
  | advance {slot : Nat} {w : Worker} {j : Job} {stage next : Stage} {disk : Disk}
      (here : s.workers[slot]? = some w) (phase : w.phase = .preparing j stage)
      (ready : sched.settings.advance? slot j s.disk stage = some (.ok (next, disk))) :
    Move sched s (.prepare slot)
      ((State.setWorker { s with disk } slot { w with phase := .preparing j next }).note
        (.reached slot next))
  | giveUp {slot : Nat} {w : Worker} {j : Job} {stage : Stage} {e : WorkspaceError}
      (here : s.workers[slot]? = some w) (phase : w.phase = .preparing j stage)
      (failed : sched.settings.advance? slot j s.disk stage = some (.error e)) :
    Move sched s (.prepare slot)
      (State.settle { s with disk := stage.abandon s.disk } sched.settings slot w
        ⟨j, .unprepared e⟩)
  | ask {slot : Nat} {w : Worker} {j : Job} {workspace artifact : Location} {call : AdapterCall}
      (here : s.workers[slot]? = some w) (phase : w.phase = .preparing j (.placed workspace artifact))
      (asked : call = ⟨sched.settings.request j workspace artifact, s.disk⟩) :
    Move sched s (.ask slot)
      ((s.setWorker slot { w with phase := .running j call }).note (.asked slot j call))
  | finish {slot : Nat} {w : Worker} {j : Job} {call : AdapterCall} (answer : AdapterAnswer)
      (disk : Disk) (here : s.workers[slot]? = some w) (phase : w.phase = .running j call) :
    Move sched s (.finish slot answer disk)
      (State.settle { s with disk := disk.removeAt call.request.workspace } sched.settings slot w
        ⟨j, .tried call answer⟩)
  | cancel : Move sched s .cancel s.cancel
  | conclude (closed : s.isOpen = false) (first : s.report = none)
      (done : ∀ w ∈ s.workers, w.phase = .stopped) :
    Move sched s .conclude
      { s with report := some (.ofResults s.results s.diagnostics s.isCancelled sched.policy) }

variable {sched : Scheduler} {s t : State} {a : Action}

private theorem move_of_look (h : look? sched s = some t) : Move sched s .look t := by
  unfold look? at h
  split at h
  · next canSend free ended =>
    obtain rfl := Option.some.inj h
    exact .close canSend free (.inl ended)
  · next o rest canSend free next =>
    split at h
    · next cancelled =>
      obtain rfl := Option.some.inj h
      exact .close canSend free (.inr cancelled)
    · next goesOn =>
      obtain rfl := Option.some.inj h
      exact .look canSend free (by simpa using goesOn) next
  · cases h

private theorem move_of_send (h : send? sched s = some t) : Move sched s .send t := by
  unfold send? at h
  split at h
  · next j held =>
    split at h
    · next room =>
      obtain rfl := Option.some.inj h
      exact .send held room
    · cases h
  · cases h

private theorem move_of_take {slot : Nat} (h : take? s slot = some t) :
    Move sched s (.take slot) t := by
  unfold take? at h
  split at h
  · next here first =>
    obtain rfl := Option.some.inj h
    exact .take here rfl first
  · cases h

private theorem move_of_stop {slot : Nat} (h : stop? s slot = some t) :
    Move sched s (.stop slot) t := by
  unfold stop? at h
  split at h
  · next here empty closed =>
    obtain rfl := Option.some.inj h
    exact .stop here rfl empty closed
  · cases h

private theorem move_of_begin {slot : Nat} (h : begin? sched s slot = some t) :
    Move sched s (.begin slot) t := by
  unfold begin? at h
  split at h
  · next w here =>
    split at h
    · next j phase =>
      split at h
      · next cancelled =>
        obtain rfl := Option.some.inj h
        exact .passOver here phase cancelled
      · next goesOn =>
        obtain rfl := Option.some.inj h
        exact .begin here phase (by simpa using goesOn)
    · cases h
  · cases h

private theorem move_of_prepare {slot : Nat} (h : prepare? sched s slot = some t) :
    Move sched s (.prepare slot) t := by
  unfold prepare? at h
  split at h
  · next w here =>
    split at h
    · next j stage phase =>
      split at h
      · next ready =>
        obtain rfl := Option.some.inj h
        exact .advance here phase ready
      · next failed =>
        obtain rfl := Option.some.inj h
        exact .giveUp here phase failed
      · cases h
    · cases h
  · cases h

private theorem move_of_ask {slot : Nat} (h : ask? sched s slot = some t) :
    Move sched s (.ask slot) t := by
  unfold ask? at h
  split at h
  · next w here =>
    split at h
    · next phase =>
      obtain rfl := Option.some.inj h
      exact .ask here phase rfl
    · cases h
  · cases h

private theorem move_of_finish {slot : Nat} {answer : AdapterAnswer} {disk : Disk}
    (h : finish? sched s slot answer disk = some t) :
    Move sched s (.finish slot answer disk) t := by
  unfold finish? at h
  split at h
  · next w here =>
    split at h
    · next j call phase =>
      obtain rfl := Option.some.inj h
      exact .finish answer disk here phase
    · cases h
  · cases h

private theorem Worker.isStopped_iff {w : Worker} : w.isStopped = true ↔ w.phase = .stopped := by
  unfold isStopped
  cases w.phase <;> simp

private theorem move_of_conclude (h : conclude? sched s = some t) : Move sched s .conclude t := by
  unfold conclude? at h
  split at h
  · next ready =>
    simp only [Bool.and_eq_true, Bool.not_eq_true', Option.isNone_iff_eq_none,
      List.all_eq_true, Worker.isStopped_iff] at ready
    obtain ⟨⟨closed, first⟩, done⟩ := ready
    obtain rfl := Option.some.inj h
    exact .conclude closed first done
  · cases h

/-- Every enabled action is one of the moves. -/
theorem move_of_step? (h : step? sched s a = some t) : Move sched s a t := by
  cases a with
  | look => exact move_of_look h
  | send => exact move_of_send h
  | take slot => exact move_of_take h
  | stop slot => exact move_of_stop h
  | begin slot => exact move_of_begin h
  | prepare slot => exact move_of_prepare h
  | ask slot => exact move_of_ask h
  | finish slot answer disk => exact move_of_finish h
  | cancel =>
    obtain rfl := Option.some.inj h
    exact .cancel
  | conclude => exact move_of_conclude h

private theorem look?_of_ended (canSend : s.isOpen = true) (free : s.held = none)
    (ended : s.stream = [] ∨ s.isCancelled = true) :
    look? sched s = some { s with isOpen := false } := by
  unfold look?
  rw [canSend, free]
  cases next : s.stream with
  | nil => rfl
  | cons o rest =>
    rcases ended with empty | cancelled
    · cases empty.symm.trans next
    · exact if_pos cancelled

/-- Every move is possible. -/
theorem Move.step? (m : Move sched s a t) : step? sched s a = some t := by
  cases m with
  | close canSend free ended => exact look?_of_ended canSend free ended
  | look canSend free goesOn next => simp [Scheduler.step?, look?, canSend, free, goesOn, next]
  | send held room => simp [Scheduler.step?, send?, held, room]
  | @take slot w j rest here phase first =>
    obtain ⟨_, results⟩ := w
    subst phase
    simp [Scheduler.step?, take?, here, first]
  | @stop slot w here phase empty closed =>
    obtain ⟨_, results⟩ := w
    subst phase
    simp [Scheduler.step?, stop?, here, empty, closed]
  | passOver here phase cancelled => simp [Scheduler.step?, begin?, here, phase, cancelled]
  | begin here phase goesOn => simp [Scheduler.step?, begin?, here, phase, goesOn]
  | advance here phase ready => simp [Scheduler.step?, prepare?, here, phase, ready]
  | giveUp here phase failed => simp [Scheduler.step?, prepare?, here, phase, failed]
  | ask here phase asked => simp [Scheduler.step?, ask?, here, phase, asked]
  | finish answer disk here phase => simp [Scheduler.step?, finish?, here, phase]
  | cancel => rfl
  | conclude closed first done =>
    have all : s.workers.all Worker.isStopped = true :=
      List.all_eq_true.mpr fun w member => Worker.isStopped_iff.mpr (done w member)
    simp [Scheduler.step?, conclude?, closed, first, all]

namespace Reachable

variable {start : State}

theorem move (h : Reachable sched start s) (m : Move sched s a t) : Reachable sched start t :=
  .step a h m.step?

theorem trans (h : Reachable sched start s) (rest : Reachable sched s t) :
    Reachable sched start t := by
  induction rest with
  | start => exact h
  | step a _ step ih => exact .step a ih step

end Reachable

/-- What the beginning has and every move keeps, every state of a run has. -/
theorem Reachable.invariant {start : State} {P : State → Prop} (h : Reachable sched start s)
    (begins : P start) (keeps : ∀ {s t a}, Move sched s a t → P s → P t) : P s := by
  induction h with
  | start => exact begins
  | step a _ step ih => exact keeps (move_of_step? step) ih

inductive ReachableBy (sched : Scheduler) (allowed : State → Action → Prop) (start : State) :
    State → Prop where
  | start : ReachableBy sched allowed start start
  | step {s t : State} (a : Action) : ReachableBy sched allowed start s → allowed s a →
    step? sched s a = some t → ReachableBy sched allowed start t

namespace ReachableBy

variable {allowed allowed' : State → Action → Prop} {start : State}

theorem reachable (h : ReachableBy sched allowed start s) : Reachable sched start s := by
  induction h with
  | start => exact .start
  | step a _ _ step ih => exact .step a ih step

theorem move (h : ReachableBy sched allowed start s) (may : allowed s a) (m : Move sched s a t) :
    ReachableBy sched allowed start t :=
  .step a h may m.step?

/-- What the beginning has and every allowed move keeps, every such run has. -/
theorem invariant {P : State → Prop} (h : ReachableBy sched allowed start s) (begins : P start)
    (keeps : ∀ {s t a}, ReachableBy sched allowed start s → allowed s a → Move sched s a t → P s →
      P t) : P s := by
  induction h with
  | start => exact begins
  | step a before may step ih => exact keeps before may (move_of_step? step) ih

theorem imp (h : ReachableBy sched allowed start s) (weaker : ∀ s a, allowed s a → allowed' s a) :
    ReachableBy sched allowed' start s := by
  induction h with
  | start => exact .start
  | step a _ may step ih => exact .step a ih (weaker _ _ may) step

end ReachableBy
end MutationTesting.Scheduler
