import MutationTesting.Proofs.Scheduler.Accounting

/-! How a run comes to its end: when the queue is closed, when workers stop, and what is then left
to do. -/
namespace MutationTesting.Scheduler

namespace Move

variable {sched : Scheduler} {s t : State} {a : Action}

/-- The queue is closed only when the dispatcher holds nothing and has no reason to go on. -/
theorem closed (m : Move sched s a t)
    (h : s.isOpen = false → s.held = none ∧ (s.stream = [] ∨ s.isCancelled = true)) :
    t.isOpen = false → t.held = none ∧ (t.stream = [] ∨ t.isCancelled = true) := by
  cases m with
  | close _ free ended => exact fun _ => ⟨free, ended⟩
  | look canSend => exact fun closed => absurd (canSend.symm.trans closed) (by decide)
  | send held =>
    intro closed
    exact absurd (held.symm.trans (h closed).1) (by simp)
  | cancel => exact fun closed => ⟨(h closed).1, .inr rfl⟩
  | _ => exact h

/-- Workers stop only when the queue is closed and empty. -/
theorem stopped (m : Move sched s a t)
    (h : ∀ w ∈ s.workers, w.phase = .stopped → s.isOpen = false ∧ s.queue = [])
    (hc : s.isOpen = false → s.held = none) :
    ∀ w ∈ t.workers, w.phase = .stopped → t.isOpen = false ∧ t.queue = [] := by
  have changed {slot : Nat} {w' : Worker} (hw : w'.phase ≠ .stopped) :
      ∀ w ∈ s.workers.set slot w', w.phase = .stopped → s.isOpen = false ∧ s.queue = [] := by
    intro w member phase
    rcases List.mem_or_eq_of_mem_set member with old | rfl
    · exact h w old phase
    · exact absurd phase hw
  cases m with
  | close => exact fun w member phase => ⟨rfl, (h w member phase).2⟩
  | look => exact h
  | send held =>
    intro w member phase
    have free := hc (h w member phase).1
    exact absurd (held.symm.trans free) (by simp)
  | take here _ first =>
    intro w member phase
    have empty := (changed (by simp) w member phase).2
    exact absurd (first.symm.trans empty) (by simp)
  | stop here _ empty closed => exact fun _ _ _ => ⟨closed, empty⟩
  | passOver => exact changed (by simp [Worker.finished])
  | begin => exact changed (by simp)
  | advance => exact changed (by simp)
  | giveUp => exact changed (by simp [Worker.finished])
  | ask => exact changed (by simp)
  | finish => exact changed (by simp [Worker.finished])
  | cancel => exact h
  | conclude => exact h

theorem workers_length (m : Move sched s a t) : t.workers.length = s.workers.length := by
  cases m <;> simp

/-- The flag is set exactly when the history has a cancellation. -/
theorem cancelled (m : Move sched s a t) (h : s.isCancelled = true ↔ .cancelled ∈ s.history) :
    t.isCancelled = true ↔ .cancelled ∈ t.history := by
  cases m <;> simp [h]

end Move

structure Concluded (sched : Scheduler) (s : State) (r : Report) : Prop where
  closed : s.isOpen = false
  stopped : ∀ w ∈ s.workers, w.phase = .stopped
  /-- A cancellation may come too late for the report. -/
  report : ∃ flag, r = .ofResults s.results s.diagnostics flag sched.policy ∧
    (flag = true → s.isCancelled = true)

/-- Once the report is made only a cancellation is left: every other move would need a worker that
has not stopped, an open queue or a job in the dispatcher's hand. -/
theorem Concluded.move {sched : Scheduler} {s t : State} {a : Action} {r : Report}
    (h : Concluded sched s r) (made : s.report = some r) (free : s.held = none)
    (m : Move sched s a t) : t = s.cancel := by
  have ended {slot : Nat} {w : Worker} (here : s.workers[slot]? = some w) : w.phase = .stopped :=
    h.stopped w (List.mem_of_getElem? here)
  cases m with
  | close canSend => exact absurd (canSend.symm.trans h.closed) (by decide)
  | look canSend => exact absurd (canSend.symm.trans h.closed) (by decide)
  | send held => exact absurd (held.symm.trans free) (by simp)
  | take here phase => exact absurd (phase.symm.trans (ended here)) (by simp)
  | stop here phase => exact absurd (phase.symm.trans (ended here)) (by simp)
  | passOver here phase => exact absurd (phase.symm.trans (ended here)) (by simp)
  | begin here phase => exact absurd (phase.symm.trans (ended here)) (by simp)
  | advance here phase => exact absurd (phase.symm.trans (ended here)) (by simp)
  | giveUp here phase => exact absurd (phase.symm.trans (ended here)) (by simp)
  | ask here phase => exact absurd (phase.symm.trans (ended here)) (by simp)
  | finish _ _ here phase => exact absurd (phase.symm.trans (ended here)) (by simp)
  | cancel => rfl
  | conclude _ first => exact absurd (made.symm.trans first) (by simp)

/-- The report is made by one move, when all workers have stopped, and is not touched by others. -/
theorem Move.report {sched : Scheduler} {s t : State} {a : Action} (m : Move sched s a t) :
    t.report = s.report ∨
      s.isOpen = false ∧ (∀ w ∈ s.workers, w.phase = .stopped) ∧
        t = { s with
          report := some (.ofResults s.results s.diagnostics s.isCancelled sched.policy) } := by
  cases m with
  | conclude closed _ done => exact .inr ⟨closed, done, rfl⟩
  | _ => exact .inl rfl

theorem Move.concluded {sched : Scheduler} {s t : State} {a : Action} (m : Move sched s a t)
    (hc : s.isOpen = false → s.held = none)
    (h : ∀ r, s.report = some r → Concluded sched s r) :
    ∀ r, t.report = some r → Concluded sched t r := by
  intro r hr
  rcases m.report with kept | ⟨closed, done, rfl⟩
  · have made := kept.symm.trans hr
    have before := h r made
    obtain rfl := before.move made (hc before.closed) m
    obtain ⟨closed, stopped, flag, report, _⟩ := before
    exact ⟨closed, stopped, flag, report, fun _ => rfl⟩
  · obtain rfl := Option.some.inj hr
    exact ⟨closed, done, s.isCancelled, rfl, id⟩

structure Controlled (sched : Scheduler) (workers : Nat) (s : State) : Prop where
  closed : s.isOpen = false → s.held = none ∧ (s.stream = [] ∨ s.isCancelled = true)
  stopped : ∀ w ∈ s.workers, w.phase = .stopped → s.isOpen = false ∧ s.queue = []
  workers_length : s.workers.length = workers
  cancelled : s.isCancelled = true ↔ .cancelled ∈ s.history
  concluded : ∀ r, s.report = some r → Concluded sched s r

private theorem controlled_initial (sched : Scheduler) (workers : Nat) (stream : List Offer)
    (d : Disk) : Controlled sched workers (.initial workers stream d) where
  closed := by simp [State.initial]
  stopped := by
    intro w member phase
    rw [List.eq_of_mem_replicate member] at phase
    cases phase
  workers_length := List.length_replicate
  cancelled := by simp [State.initial]
  concluded := by simp [State.initial]

theorem Move.controlled {sched : Scheduler} {workers : Nat} {s t : State} {a : Action}
    (m : Move sched s a t) (h : Controlled sched workers s) : Controlled sched workers t where
  closed := m.closed h.closed
  stopped := m.stopped h.stopped fun closed => (h.closed closed).1
  workers_length := m.workers_length.trans h.workers_length
  cancelled := m.cancelled h.cancelled
  concluded := m.concluded (fun closed => (h.closed closed).1) h.concluded

theorem Reachable.controlled {sched : Scheduler} {workers : Nat} {stream : List Offer} {d : Disk}
    {s : State} (h : Reachable sched (.initial workers stream d) s) :
    Controlled sched workers s :=
  h.invariant (controlled_initial sched workers stream d) Move.controlled

theorem Controlled.uncancelled {sched : Scheduler} {workers : Nat} {s : State}
    (h : Controlled sched workers s) (goesOn : s.isCancelled = false) : .cancelled ∉ s.history := by
  intro member
  rw [h.cancelled.mpr member] at goesOn
  cases goesOn

/-- The account of a run with a report: every job that entered the queue is done with, and the
report has what the history is done with. -/
structure Finished (sched : Scheduler) (stream : List Offer) (s : State) (r : Report) : Prop where
  queued : s.history.queued = s.history.offers.filterMap Offer.job?
  worked : (s.history.worked.map Settled.job).Perm s.history.queued
  called : (s.history.worked.filterMap Settled.call?).Perm s.history.calls
  results : r.results.Perm (s.history.settled.map (Settled.result sched.settings))
  diagnostics : r.diagnostics = s.history.offers.filterMap fun o => o.item.diagnostic?
  looked : s.history.offers <+: stream
  complete : .cancelled ∉ s.history → s.history.offers = stream

private theorem flatMap_stopped {β : Type} (f : Worker → List β) {ws : List Worker}
    (stopped : ∀ w ∈ ws, w.phase = .stopped) (h : ∀ w, w.phase = .stopped → f w = []) :
    ws.flatMap f = [] :=
  List.flatMap_eq_nil_iff.mpr fun w member => h w (stopped w member)

section Reported

variable {sched : Scheduler} {workers : Nat} {stream : List Offer} {d : Disk} {s : State}
  {r : Report}

theorem Reachable.reported (h : Reachable sched (.initial workers stream d) s)
    (made : s.report = some r) :
    r.results.Perm (s.history.settled.map (Settled.result sched.settings)) := by
  obtain ⟨-, -, flag, rfl, -⟩ := h.controlled.concluded r made
  exact (List.mergeSort_perm _ _).trans h.accounted.results

/-- Once the report is made no worker waits for an answer. -/
theorem Reachable.answered (h : Reachable sched (.initial workers stream d) s)
    (made : s.report = some r) :
    (s.history.worked.filterMap Settled.call?).Perm s.history.calls := by
  have stopped := (h.controlled.concluded r made).stopped
  have calling := flatMap_stopped Worker.calling stopped fun w phase => by
    rw [Worker.calling, phase]
  have called := h.accounted.called
  rwa [calling, List.nil_append] at called

theorem Reachable.finished (some_worker : 0 < workers)
    (h : Reachable sched (.initial workers stream d) s) (made : s.report = some r) :
    Finished sched stream s r := by
  have account := h.accounted
  have control := h.controlled
  have results := h.reported made
  obtain ⟨closed, stopped, flag, rfl, _⟩ := control.concluded r made
  obtain ⟨free, ended⟩ := control.closed closed
  have empty : s.queue = [] := by
    have hl : 0 < s.workers.length := by rw [control.workers_length]; exact some_worker
    have member := List.getElem_mem hl
    exact (control.stopped _ member (stopped _ member)).2
  have hand := flatMap_stopped Worker.inHand stopped fun w phase => by rw [Worker.inHand, phase]
  refine ⟨?_, ?_, h.answered made, results, account.diagnostics, ⟨s.stream, account.looked⟩, ?_⟩
  · rw [← account.sent, free, Option.toList_none, List.append_nil]
  · have hw := account.worked
    rwa [hand, List.nil_append, ← List.append_nil s.history.taken, ← empty, account.fifo] at hw
  · intro uncancelled
    have goesOn : s.isCancelled ≠ true := fun hc => uncancelled (control.cancelled.mp hc)
    have done : s.stream = [] := ended.resolve_right goesOn
    have hl := account.looked
    rwa [done, List.append_nil] at hl

end Reported
end MutationTesting.Scheduler
