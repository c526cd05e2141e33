import MutationTesting.Proofs.Scheduler.Accounting

/-! Which calls the workers wait for. -/
namespace MutationTesting.Scheduler

namespace Event

@[simp] def callOf? (slot : Nat) : Event → Option (Job × AdapterCall)
  | asked i j call => if i = slot then some (j, call) else none
  | _ => none

/-- The call whose answer a worker has. -/
@[simp] def answerOf? (slot : Nat) : Event → Option (Job × AdapterCall)
  | settled i x => if i = slot then x.call? else none
  | _ => none

end Event

namespace History

def callsOf (slot : Nat) (h : History) : List (Job × AdapterCall) :=
  h.filterMap (Event.callOf? slot)

def answeredOf (slot : Nat) (h : History) : List (Job × AdapterCall) :=
  h.filterMap (Event.answerOf? slot)

def answered (h : History) : List (Job × AdapterCall) := h.worked.filterMap Settled.call?

end History

namespace State

def callAt (s : State) (slot : Nat) : List (Job × AdapterCall) :=
  (s.workers[slot]?).elim [] Worker.calling

end State

namespace History

variable (h : History) (e : Event) (slot : Nat)

private theorem callsOf_snoc :
    callsOf slot (h ++ [e]) = h.callsOf slot ++ (e.callOf? slot).toList :=
  filterMap_snoc _ _ _

private theorem answeredOf_snoc :
    answeredOf slot (h ++ [e]) = h.answeredOf slot ++ (e.answerOf? slot).toList :=
  filterMap_snoc _ _ _

end History

/-- Every call of a worker is answered, but perhaps the one it waits for. -/
def Engaged (s : State) : Prop :=
  ∀ slot, s.history.callsOf slot = s.history.answeredOf slot ++ s.callAt slot

section Engaged

variable {sched : Scheduler} {s t : State} {a : Action} {slot : Nat} {w w' : Worker} {e : Event}

/-- One event more, which is about one worker and tells what that worker now waits for. -/
theorem Engaged.change (h : Engaged s) (here : s.workers[slot]? = some w)
    (workers : t.workers = s.workers.set slot w') (history : t.history = s.history ++ [e])
    (own : w.calling ++ (e.callOf? slot).toList = (e.answerOf? slot).toList ++ w'.calling)
    (others : ∀ i ≠ slot, e.callOf? i = none ∧ e.answerOf? i = none) : Engaged t := by
  intro i
  have before := h i
  have within : slot < s.workers.length := (List.getElem?_eq_some_iff.mp here).1
  rw [history, History.callsOf_snoc, History.answeredOf_snoc, before, State.callAt, State.callAt,
    workers]
  by_cases same : i = slot
  · subst same
    rw [here, List.getElem?_set_self within, Option.elim_some, Option.elim_some, List.append_assoc,
      List.append_assoc, own]
  · obtain ⟨quiet, silent⟩ := others i same
    rw [List.getElem?_set_ne (Ne.symm same), quiet, silent]
    simp only [Option.toList_none, List.append_nil]

/-- A worker that is done with a mutant has the answer to its call, if it made one. -/
theorem Engaged.settle {x : Settled} (h : Engaged s) (here : s.workers[slot]? = some w)
    (calling : w.calling = x.call?.toList) : Engaged (s.settle sched.settings slot w x) := by
  have idle : (w.finished (x.result sched.settings)).calling = [] := rfl
  refine h.change here rfl rfl ?_ fun i other => ⟨rfl, if_neg (Ne.symm other)⟩
  simp [calling, idle]

/-- What changes neither a worker's call nor the events about workers keeps the account. -/
theorem Engaged.other (h : Engaged s) (workers : ∀ i, t.callAt i = s.callAt i)
    (history : t.history = s.history ∨
      ∃ e, t.history = s.history ++ [e] ∧ ∀ i, e.callOf? i = none ∧ e.answerOf? i = none) :
    Engaged t := by
  intro i
  rcases history with same | ⟨e, next, quiet⟩
  · rw [same, workers]
    exact h i
  · rw [next, History.callsOf_snoc, History.answeredOf_snoc, (quiet i).1, (quiet i).2, workers]
    simpa only [Option.toList_none, List.append_nil] using h i

end Engaged
end MutationTesting.Scheduler
