import Mathlib.Data.List.Basic
import MutationTesting.Proofs.Scheduler.Move

/-! Where every item of the stream is at any moment of a run.

Nothing is lost and nothing counts twice: an item waits in the stream, is held by the dispatcher,
waits in the queue, is in the hands of one worker or is done with. -/
namespace MutationTesting.Scheduler

namespace Worker

def inHand (w : Worker) : List Job :=
  match w.phase with
  | .holding j | .preparing j _ | .running j _ => [j]
  | .waiting | .stopped => []

def calling (w : Worker) : List (Job × AdapterCall) :=
  match w.phase with
  | .running j call => [(j, call)]
  | _ => []

end Worker

/-- Changing one worker adds to a list taken from all workers what it adds to that worker's
part. -/
private theorem flatMap_set_perm {α β : Type} (f : α → List β) {ws : List α} {i : Nat} {w w' : α}
    {more less : List β} (here : ws[i]? = some w) (h : (f w' ++ more).Perm (f w ++ less)) :
    ((ws.set i w').flatMap f ++ more).Perm (ws.flatMap f ++ less) := by
  induction ws generalizing i with
  | nil => cases here
  | cons v ws ih =>
    cases i with
    | zero =>
      obtain rfl : v = w := by simpa using here
      have hn : (ws.flatMap f ++ (f w' ++ more)).Perm (ws.flatMap f ++ (f v ++ less)) :=
        h.append_left _
      simp only [List.set_cons_zero, List.flatMap_cons]
      calc
        _ = f w' ++ (ws.flatMap f ++ more) := List.append_assoc _ _ _
        _ |>.Perm (ws.flatMap f ++ (f w' ++ more)) := List.perm_append_comm_assoc _ _ _
        _ |>.Perm (ws.flatMap f ++ (f v ++ less)) := hn
        _ |>.Perm (f v ++ (ws.flatMap f ++ less)) := List.perm_append_comm_assoc _ _ _
        _ = f v ++ ws.flatMap f ++ less := (List.append_assoc _ _ _).symm
    | succ i =>
      have hn := (ih (by simpa using here)).append_left (f v)
      simpa only [List.set_cons_succ, List.flatMap_cons, List.append_assoc] using hn

/-- A change that does not touch a worker's part leaves the whole list as it is. -/
private theorem flatMap_set_eq {α β : Type} (f : α → List β) {ws : List α} {i : Nat} {w : α}
    (w' : α) (here : ws[i]? = some w) (h : f w' = f w) :
    (ws.set i w').flatMap f = ws.flatMap f := by
  induction ws generalizing i with
  | nil => rfl
  | cons v ws ih =>
    cases i with
    | zero =>
      obtain rfl : v = w := by simpa using here
      rw [List.set_cons_zero, List.flatMap_cons, List.flatMap_cons, h]
    | succ i =>
      rw [List.set_cons_succ, List.flatMap_cons, List.flatMap_cons, ih (by simpa using here)]

private theorem filterMap_one {α β : Type} (f : α → Option β) (a : α) :
    [a].filterMap f = (f a).toList := by
  cases h : f a <;> simp [h]

theorem filterMap_snoc {α β : Type} (f : α → Option β) (xs : List α) (a : α) :
    (xs ++ [a]).filterMap f = xs.filterMap f ++ (f a).toList := by
  rw [List.filterMap_append, filterMap_one]

namespace History

variable (h : History) (e : Event)

@[simp] theorem offers_snoc : offers (h ++ [e]) = h.offers ++ e.offer?.toList :=
  filterMap_snoc _ _ _

@[simp] theorem queued_snoc : queued (h ++ [e]) = h.queued ++ e.queued?.toList :=
  filterMap_snoc _ _ _

@[simp] theorem taken_snoc : taken (h ++ [e]) = h.taken ++ e.taken?.toList :=
  filterMap_snoc _ _ _

@[simp] theorem calls_snoc : calls (h ++ [e]) = h.calls ++ e.call?.toList :=
  filterMap_snoc _ _ _

@[simp] theorem worked_snoc : worked (h ++ [e]) = h.worked ++ e.settled?.toList :=
  filterMap_snoc _ _ _

end History

namespace Move

variable {sched : Scheduler} {s t : State} {a : Action}

/-- The dispatcher takes the items in order. -/
theorem looked (m : Move sched s a t) :
    t.history.offers ++ t.stream = s.history.offers ++ s.stream := by
  cases m <;> simp [*]

/-- Jobs enter the queue in the order of their items. -/
theorem sent (m : Move sched s a t)
    (h : s.history.queued ++ s.held.toList = s.history.offers.filterMap Offer.job?) :
    t.history.queued ++ t.held.toList = t.history.offers.filterMap Offer.job? := by
  cases m with
  | look _ free =>
    rw [free] at h
    simpa [filterMap_one] using h
  | send held => simpa [held] using h
  | _ => simpa using h

/-- Jobs leave the queue in the order in which they entered it. -/
theorem fifo (m : Move sched s a t) (h : s.history.taken ++ s.queue = s.history.queued) :
    t.history.taken ++ t.queue = t.history.queued := by
  cases m with
  | send held => simp [← h]
  | take _ _ first => simpa [first] using h
  | _ => simpa using h

/-- What the dispatcher does not hand over it settles at once. -/
theorem untried (m : Move sched s a t)
    (h : s.untried =
      (s.history.offers.filterMap Offer.aside?).map (Settled.result sched.settings)) :
    t.untried = (t.history.offers.filterMap Offer.aside?).map (Settled.result sched.settings) := by
  cases m with
  | @look o =>
    cases ho : o.aside? <;> simp [h, ho]
  | _ => simpa using h

theorem diagnostics (m : Move sched s a t)
    (h : s.diagnostics = s.history.offers.filterMap fun o => o.item.diagnostic?) :
    t.diagnostics = t.history.offers.filterMap fun o => o.item.diagnostic? := by
  cases m with
  | look => simp [filterMap_one, h]
  | _ => simpa using h

end Move

section Settle

variable {sched : Scheduler} {s : State} {slot : Nat} {w : Worker} {x : Settled}

private theorem settle_worked (here : s.workers[slot]? = some w) (hand : w.inHand = [x.job])
    (h : (s.workers.flatMap Worker.inHand ++ s.history.worked.map Settled.job).Perm
      s.history.taken) :
    let t := s.settle sched.settings slot w x
    (t.workers.flatMap Worker.inHand ++ t.history.worked.map Settled.job).Perm
      t.history.taken := by
  have hw : (Worker.inHand (w.finished (x.result sched.settings))
      ++ (s.history.worked.map Settled.job ++ [x.job])).Perm
        (w.inHand ++ s.history.worked.map Settled.job) := by
    rw [hand]
    exact List.perm_append_singleton _ _
  have hp := (flatMap_set_perm Worker.inHand here hw).trans h
  simpa using hp

private theorem settle_called (here : s.workers[slot]? = some w)
    (calling : w.calling = x.call?.toList)
    (h : (s.workers.flatMap Worker.calling ++ s.history.worked.filterMap Settled.call?).Perm
      s.history.calls) :
    let t := s.settle sched.settings slot w x
    (t.workers.flatMap Worker.calling ++ t.history.worked.filterMap Settled.call?).Perm
      t.history.calls := by
  have hw : (Worker.calling (w.finished (x.result sched.settings))
      ++ (s.history.worked.filterMap Settled.call? ++ x.call?.toList)).Perm
        (w.calling ++ s.history.worked.filterMap Settled.call?) := by
    rw [calling]
    change (s.history.worked.filterMap Settled.call? ++ x.call?.toList).Perm _
    exact List.perm_append_comm
  have hp := (flatMap_set_perm Worker.calling here hw).trans h
  simpa [filterMap_one] using hp

private theorem settle_tried (here : s.workers[slot]? = some w)
    (h : (s.workers.flatMap Worker.results).Perm
      (s.history.worked.map (Settled.result sched.settings))) :
    let t := s.settle sched.settings slot w x
    (t.workers.flatMap Worker.results).Perm
      (t.history.worked.map (Settled.result sched.settings)) := by
  have hw : (Worker.results (w.finished (x.result sched.settings)) ++ []).Perm
      (w.results ++ [x.result sched.settings]) := by
    rw [List.append_nil]
    exact .refl _
  have hp := flatMap_set_perm Worker.results here hw
  rw [List.append_nil] at hp
  simpa using
    hp.trans (h.append_right [x.result sched.settings])

end Settle

namespace Move

variable {sched : Scheduler} {s t : State} {a : Action}

/-- A job that was taken is in the hands of one worker or done with. -/
theorem worked (m : Move sched s a t)
    (h : (s.workers.flatMap Worker.inHand ++ s.history.worked.map Settled.job).Perm
      s.history.taken) :
    (t.workers.flatMap Worker.inHand ++ t.history.worked.map Settled.job).Perm
      t.history.taken := by
  cases m with
  | @take slot w j rest here phase first =>
    have hw : (Worker.inHand { w with phase := .holding j }
        ++ s.history.worked.map Settled.job).Perm
        (w.inHand ++ j :: s.history.worked.map Settled.job) := by
      simp [Worker.inHand, phase]
    have hj : (s.workers.flatMap Worker.inHand ++ j :: s.history.worked.map Settled.job).Perm
        (s.history.taken ++ [j]) :=
      (List.perm_middle.trans (h.cons j)).trans (List.perm_append_singleton _ _).symm
    simpa using
      (flatMap_set_perm Worker.inHand here hw).trans hj
  | @stop slot w here phase =>
    have he := flatMap_set_eq Worker.inHand { w with phase := .stopped } here
      (by simp [Worker.inHand, phase])
    simpa [he] using h
  | passOver here phase => exact settle_worked here (by simp [Worker.inHand, phase]) h
  | @begin slot w j here phase =>
    have he := flatMap_set_eq Worker.inHand { w with phase := .preparing j .bare } here
      (by simp [Worker.inHand, phase])
    simpa [he] using h
  | @advance slot w j _ next _ here phase =>
    have he := flatMap_set_eq Worker.inHand { w with phase := .preparing j next } here
      (by simp [Worker.inHand, phase])
    simpa [he] using h
  | giveUp here phase =>
    exact settle_worked (s := { s with disk := _ }) here (by simp [Worker.inHand, phase]) h
  | @ask slot w j _ _ call here phase =>
    have he := flatMap_set_eq Worker.inHand { w with phase := .running j call } here
      (by simp [Worker.inHand, phase])
    simpa [he] using h
  | finish _ _ here phase =>
    exact settle_worked (s := { s with disk := _ }) here (by simp [Worker.inHand, phase]) h
  | _ => simpa using h

/-- A call that was made is waited for by one worker or answered. -/
theorem called (m : Move sched s a t)
    (h : (s.workers.flatMap Worker.calling ++ s.history.worked.filterMap Settled.call?).Perm
      s.history.calls) :
    (t.workers.flatMap Worker.calling ++ t.history.worked.filterMap Settled.call?).Perm
      t.history.calls := by
  cases m with
  | @take slot w j rest here phase =>
    have he := flatMap_set_eq Worker.calling { w with phase := .holding j } here
      (by simp [Worker.calling, phase])
    simpa [he] using h
  | @stop slot w here phase =>
    have he := flatMap_set_eq Worker.calling { w with phase := .stopped } here
      (by simp [Worker.calling, phase])
    simpa [he] using h
  | passOver here phase =>
    exact settle_called here (by simp [Worker.calling, phase, Settled.call?, Fate.call?]) h
  | @begin slot w j here phase =>
    have he := flatMap_set_eq Worker.calling { w with phase := .preparing j .bare } here
      (by simp [Worker.calling, phase])
    simpa [he] using h
  | @advance slot w j _ next _ here phase =>
    have he := flatMap_set_eq Worker.calling { w with phase := .preparing j next } here
      (by simp [Worker.calling, phase])
    simpa [he] using h
  | giveUp here phase =>
    exact settle_called (s := { s with disk := _ }) here
      (by simp [Worker.calling, phase, Settled.call?, Fate.call?]) h
  | @ask slot w j _ _ call here phase =>
    have hw : (Worker.calling { w with phase := .running j call }
        ++ s.history.worked.filterMap Settled.call?).Perm
          (w.calling ++ (j, call) :: s.history.worked.filterMap Settled.call?) := by
      simp [Worker.calling, phase]
    have hj : (s.workers.flatMap Worker.calling
        ++ (j, call) :: s.history.worked.filterMap Settled.call?).Perm
          (s.history.calls ++ [(j, call)]) :=
      (List.perm_middle.trans (h.cons _)).trans (List.perm_append_singleton _ _).symm
    simpa using
      (flatMap_set_perm Worker.calling here hw).trans hj
  | finish _ _ here phase =>
    exact settle_called (s := { s with disk := _ }) here
      (by simp [Worker.calling, phase, Settled.call?, Fate.call?]) h
  | _ => simpa using h

/-- Workers keep the results of the mutants they are done with. -/
theorem tried (m : Move sched s a t)
    (h : (s.workers.flatMap Worker.results).Perm
      (s.history.worked.map (Settled.result sched.settings))) :
    (t.workers.flatMap Worker.results).Perm
      (t.history.worked.map (Settled.result sched.settings)) := by
  cases m with
  | @take slot w j rest here =>
    have he := flatMap_set_eq Worker.results { w with phase := .holding j } here rfl
    simpa [he] using h
  | @stop slot w here =>
    have he := flatMap_set_eq Worker.results { w with phase := .stopped } here rfl
    simpa [he] using h
  | passOver here => exact settle_tried here h
  | @begin slot w j here =>
    have he := flatMap_set_eq Worker.results { w with phase := .preparing j .bare } here rfl
    simpa [he] using h
  | @advance slot w j _ next _ here =>
    have he := flatMap_set_eq Worker.results { w with phase := .preparing j next } here rfl
    simpa [he] using h
  | giveUp here => exact settle_tried (s := { s with disk := _ }) here h
  | @ask slot w j _ _ call here =>
    have he := flatMap_set_eq Worker.results { w with phase := .running j call } here rfl
    simpa [he] using h
  | finish _ _ here => exact settle_tried (s := { s with disk := _ }) here h
  | _ => simpa using h

end Move

structure Accounted (sched : Scheduler) (stream : List Offer) (s : State) : Prop where
  looked : s.history.offers ++ s.stream = stream
  sent : s.history.queued ++ s.held.toList = s.history.offers.filterMap Offer.job?
  fifo : s.history.taken ++ s.queue = s.history.queued
  worked : (s.workers.flatMap Worker.inHand ++ s.history.worked.map Settled.job).Perm
    s.history.taken
  called : (s.workers.flatMap Worker.calling ++ s.history.worked.filterMap Settled.call?).Perm
    s.history.calls
  untried : s.untried =
    (s.history.offers.filterMap Offer.aside?).map (Settled.result sched.settings)
  tried : (s.workers.flatMap Worker.results).Perm
    (s.history.worked.map (Settled.result sched.settings))
  diagnostics : s.diagnostics = s.history.offers.filterMap fun o => o.item.diagnostic?

private theorem accounted_initial (sched : Scheduler) (workers : Nat) (stream : List Offer)
    (d : Disk) : Accounted sched stream (.initial workers stream d) where
  looked := rfl
  sent := rfl
  fifo := rfl
  worked := by simp [State.initial, Worker.inHand, History.worked, History.taken]
  called := by simp [State.initial, Worker.calling, History.worked, History.calls]
  untried := rfl
  tried := by simp [State.initial, History.worked, List.flatMap_replicate]
  diagnostics := rfl

/-- Every move of a run keeps the account. -/
theorem Move.accounted {sched : Scheduler} {stream : List Offer} {s t : State} {a : Action}
    (m : Move sched s a t) (h : Accounted sched stream s) : Accounted sched stream t where
  looked := m.looked.trans h.looked
  sent := m.sent h.sent
  fifo := m.fifo h.fifo
  worked := m.worked h.worked
  called := m.called h.called
  untried := m.untried h.untried
  tried := m.tried h.tried
  diagnostics := m.diagnostics h.diagnostics

theorem Reachable.accounted {sched : Scheduler} {workers : Nat} {stream : List Offer} {d : Disk}
    {s : State} (h : Reachable sched (.initial workers stream d) s) : Accounted sched stream s :=
  h.invariant (accounted_initial sched workers stream d) Move.accounted

namespace Accounted

variable {sched : Scheduler} {stream : List Offer} {s : State} {j : Job}

/-- The results of a state are those of the mutants that its history is done with. -/
theorem results (h : Accounted sched stream s) :
    s.results.Perm (s.history.settled.map (Settled.result sched.settings)) := by
  rw [State.results, History.settled, List.map_append, h.untried]
  exact h.tried.append_left _

theorem job_of_queued (h : Accounted sched stream s) (queued : j ∈ s.history.queued) :
    j ∈ stream.filterMap Offer.job? := by
  have looked : j ∈ s.history.offers.filterMap Offer.job? :=
    h.sent ▸ List.mem_append_left _ queued
  rw [← h.looked, List.filterMap_append]
  exact List.mem_append_left _ looked

theorem queued_of_inHand {w : Worker} (h : Accounted sched stream s) (here : w ∈ s.workers)
    (hand : j ∈ w.inHand) : j ∈ s.history.queued := by
  have taken : j ∈ s.history.taken :=
    h.worked.subset (List.mem_append_left _ (List.mem_flatMap.mpr ⟨w, here, hand⟩))
  rw [← h.fifo]
  exact List.mem_append_left _ taken

end Accounted

end MutationTesting.Scheduler
