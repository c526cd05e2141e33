import MutationTesting.Proofs.Except
import MutationTesting.Proofs.Scheduler.Driven
import MutationTesting.Proofs.Scheduler.Engaged
import MutationTesting.Proofs.Scheduler.Workspaces

/-! How much work is in progress at any moment of a run, and how little is begun once the run is
cancelled. -/
namespace MutationTesting.Scheduler

namespace Event

def slot? : Event → Option Nat
  | taken slot _ | reached slot _ | asked slot _ _ | settled slot _ => some slot
  | _ => none

end Event

namespace History

def firstOf (slot : Nat) (h : History) : Option Event := h.find? fun e => e.slot? == some slot

private theorem firstOf_snoc (slot : Nat) (h : History) (e : Event) :
    firstOf slot (h ++ [e]) =
      (h.firstOf slot).or (if e.slot? = some slot then some e else none) := by
  rw [firstOf, List.find?_append]
  by_cases same : e.slot? = some slot <;> simp [firstOf, same]

end History

variable {sched : Scheduler} {workers : Nat} {stream : List Offer} {d : Disk} {s t : State}
  {a : Action}

/-- The dispatcher sends only where there is room. -/
theorem Move.room (m : Move sched s a t) (h : s.queue.length ≤ sched.lookahead) :
    t.queue.length ≤ sched.lookahead := by
  cases m with
  | send _ room =>
    rw [State.note, List.length_append]
    exact room
  | take _ _ first =>
    rw [first, List.length_cons] at h
    exact Nat.le_of_succ_le h
  | _ => exact h

theorem Reachable.room (h : Reachable sched (.initial workers stream d) s) :
    s.queue.length ≤ sched.lookahead :=
  h.invariant (Nat.zero_le _) Move.room

/-- A worker is at a job without having asked about it, and will not ask: it still has to find out
that the run is cancelled, or it passed the job over as the first thing it did. -/
def PassesOver (slot : Nat) (j : Job) (s : State) (since : History) : Prop :=
  (since.firstOf slot = none ∧ ∃ w, s.workers[slot]? = some w ∧ w.phase = .holding j) ∨
    since.firstOf slot = some (.settled slot ⟨j, .passedOver⟩)

/-- What a worker that holds a job does in a cancelled run: nothing, or it passes the job over. -/
private theorem Move.ofHolding {slot : Nat} {w : Worker} {j : Job} (m : Move sched s a t)
    (cancelled : s.isCancelled = true) (here : s.workers[slot]? = some w)
    (phase : w.phase = .holding j) :
    (t.workers[slot]? = some w ∧
      (t.history = s.history ∨ ∃ e, t.history = s.history ++ [e] ∧ e.slot? ≠ some slot)) ∨
    t.history = s.history ++ [.settled slot ⟨j, .passedOver⟩] := by
  -- A worker in another phase is another worker.
  have beside {i : Nat} {v v' : Worker} (there : s.workers[i]? = some v)
      (differs : v.phase ≠ .holding j) : i ≠ slot ∧ (s.workers.set i v')[slot]? = some w := by
    have other : i ≠ slot := by
      rintro rfl
      obtain rfl := Option.some.inj (there.symm.trans here)
      exact differs phase
    exact ⟨other, (List.getElem?_set_ne other).trans here⟩
  cases m with
  | close => exact .inl ⟨here, .inl rfl⟩
  | look => exact .inl ⟨here, .inr ⟨_, rfl, by simp [Event.slot?]⟩⟩
  | send => exact .inl ⟨here, .inr ⟨_, rfl, by simp [Event.slot?]⟩⟩
  | take there waits =>
    obtain ⟨other, kept⟩ := beside there (by simp [waits])
    exact .inl ⟨kept, .inr ⟨_, rfl, by simpa [Event.slot?] using other⟩⟩
  | stop there waits =>
    obtain ⟨-, kept⟩ := beside there (by simp [waits])
    exact .inl ⟨kept, .inl rfl⟩
  | @passOver i v k there holds =>
    by_cases same : i = slot
    · subst same
      obtain rfl := Option.some.inj (there.symm.trans here)
      obtain rfl := Phase.holding.inj (holds.symm.trans phase)
      exact .inr rfl
    · refine .inl ⟨(List.getElem?_set_ne same).trans here, .inr ⟨_, rfl, ?_⟩⟩
      simpa [Event.slot?] using same
  | begin _ _ goesOn => exact absurd (cancelled.symm.trans goesOn) (by decide)
  | advance there prepares =>
    obtain ⟨other, kept⟩ := beside there (by simp [prepares])
    exact .inl ⟨kept, .inr ⟨_, rfl, by simpa [Event.slot?] using other⟩⟩
  | giveUp there prepares =>
    obtain ⟨other, kept⟩ := beside there (by simp [prepares])
    exact .inl ⟨kept, .inr ⟨_, rfl, by simpa [Event.slot?] using other⟩⟩
  | ask there prepares =>
    obtain ⟨other, kept⟩ := beside there (by simp [prepares])
    exact .inl ⟨kept, .inr ⟨_, rfl, by simpa [Event.slot?] using other⟩⟩
  | finish _ _ there runs =>
    obtain ⟨other, kept⟩ := beside there (by simp [runs])
    exact .inl ⟨kept, .inr ⟨_, rfl, by simpa [Event.slot?] using other⟩⟩
  | cancel => exact .inl ⟨here, .inr ⟨_, rfl, by simp [Event.slot?]⟩⟩
  | conclude => exact .inl ⟨here, .inl rfl⟩

theorem PassesOver.move {slot : Nat} {j : Job} {since more : History} (m : Move sched s a t)
    (cancelled : s.isCancelled = true) (h : PassesOver slot j s since)
    (next : t.history = s.history ++ more) : PassesOver slot j t (since ++ more) := by
  have append : (since ++ more).firstOf slot = (since.firstOf slot).or (more.firstOf slot) :=
    List.find?_append
  rcases h with ⟨nothing, w, here, phase⟩ | passed
  · rcases m.ofHolding cancelled here phase with ⟨kept, same | ⟨e, one, other⟩⟩ | one
    · obtain rfl : more = [] := List.append_cancel_left (next.symm.trans (by simpa using same))
      rw [List.append_nil]
      exact .inl ⟨nothing, w, kept, phase⟩
    · obtain rfl : more = [e] := List.append_cancel_left (next.symm.trans one)
      refine .inl ⟨?_, w, kept, phase⟩
      rw [History.firstOf_snoc, nothing, if_neg other]
      rfl
    · obtain rfl := List.append_cancel_left (next.symm.trans one)
      refine .inr ?_
      rw [History.firstOf_snoc, nothing, if_pos (by rfl)]
      rfl
  · refine .inr ?_
    rw [append, passed]
    rfl

/-- What a passed over job comes to. -/
theorem PassesOver.ended {slot : Nat} {j : Job} {since : History} (h : PassesOver slot j s since) :
    (since.firstOf slot = none ∧ s.workers[slot]?.map Worker.phase = some (.holding j)) ∨
      ∃ x, since.firstOf slot = some (.settled slot x) ∧ x.job = j ∧ x.call? = none ∧
        (x.result sched.settings).kind = .skipped := by
  rcases h with ⟨nothing, w, here, phase⟩ | passed
  · exact .inl ⟨nothing, by rw [here, Option.map_some, phase]⟩
  · exact .inr ⟨_, passed, rfl, rfl, rfl⟩

end MutationTesting.Scheduler
