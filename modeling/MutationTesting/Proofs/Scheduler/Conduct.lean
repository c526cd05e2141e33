import Mathlib.Data.List.Perm.Subperm
import MutationTesting.Proofs.Execution.Preparation
import MutationTesting.Proofs.Execution.Verdict
import MutationTesting.Proofs.Scheduler.Ending
import MutationTesting.Proofs.Scheduler.Engaged
import MutationTesting.Proofs.Scheduler.Isolation

/-! What workers do with their jobs: the runner is asked once at most, about the changed file of the
job, and the outcome tells what it answered. -/
namespace MutationTesting.Scheduler

/-- The changed text of a job was once written where it belongs in a workspace. -/
def Placement.Written (s : ExecutionSettings) (x : Placement) : Prop :=
  x.artifact = Workspace.locate x.workspace x.job.mutant.file ∧
    ∃ text d d', x.job.patched s = .ok text ∧ Disk.place d x.artifact text = .ok d'

def Prepared (s : ExecutionSettings) (j : Job) (request : TestRequest) : Prop :=
  ∃ x : Placement, x.job = j ∧ x.Written s ∧ request = s.request j x.workspace x.artifact

/-- What has to have happened for a worker to be done with a mutant in such a way. -/
def Warranted (s : ExecutionSettings) (h : History) (x : Settled) : Prop :=
  match x.fate with
  | .uncovered | .ignored => False
  | .passedOver => .cancelled ∈ h
  | .unprepared e => ∃ slot d stage, s.advance? slot x.job d stage = some (.error e)
  | .tried call _ => Prepared s x.job call.request

/-- What workers have written is what they were to write, every call was prepared for its job, and
every fate has its reason. -/
structure Conducted (s : ExecutionSettings) (u : State) : Prop where
  placed : ∀ w ∈ u.workers, ∀ x, w.placed? = some x → x.Written s
  asked : ∀ x ∈ u.history.calls, Prepared s x.1 x.2.request
  worked : ∀ x ∈ u.history.worked, Warranted s u.history x

private theorem Warranted.snoc {s : ExecutionSettings} {h : History} {x : Settled} (e : Event)
    (w : Warranted s h x) : Warranted s (h ++ [e]) x := by
  unfold Warranted at w ⊢
  split at w
  · exact w
  · exact w
  · exact List.mem_append_left _ w
  · exact w
  · exact w

namespace Conducted

variable {s : ExecutionSettings} {u v : State} {slot : Nat} {w w' : Worker} {e : Event}

/-- One more event, and perhaps one worker that has written something: a call must have been
prepared, and the end of the work must be warranted. -/
private theorem snoc (c : Conducted s u) (history : v.history = u.history ++ [e])
    (hp : ∀ w ∈ v.workers, ∀ x, w.placed? = some x → x.Written s)
    (hc : ∀ x, e.call? = some x → Prepared s x.1 x.2.request)
    (hw : ∀ x, e.settled? = some x → Warranted s u.history x) : Conducted s v where
  placed := hp
  asked := by
    intro x member
    rw [history, History.calls_snoc, List.mem_append, Option.mem_toList] at member
    rcases member with old | new
    · exact c.asked x old
    · exact hc x new
  worked := by
    intro x member
    rw [history] at member ⊢
    rw [History.worked_snoc, List.mem_append, Option.mem_toList] at member
    rcases member with old | new
    · exact (c.worked x old).snoc e
    · exact (hw x new).snoc e

theorem set (c : Conducted s u) (own : ∀ x, w'.placed? = some x → x.Written s) :
    ∀ w ∈ u.workers.set slot w', ∀ x, w.placed? = some x → x.Written s := by
  intro w member x placed
  rcases List.mem_or_eq_of_mem_set member with old | rfl
  · exact c.placed w old x placed
  · exact own x placed

end Conducted

theorem Move.conducted {sched : Scheduler} {s t : State} {a : Action} (m : Move sched s a t)
    (cancelled : s.isCancelled = true → .cancelled ∈ s.history)
    (calling : ∀ w ∈ s.workers, ∀ x ∈ w.calling, x ∈ s.history.calls)
    (c : Conducted sched.settings s) : Conducted sched.settings t := by
  have other {β : Type} {P : β → Prop} : ∀ x, (none : Option β) = some x → P x :=
    fun _ none_ => by cases none_
  have done {x : Settled} (hw : Warranted sched.settings s.history x) :
      ∀ y, some x = some y → Warranted sched.settings s.history y :=
    fun y new => Option.some.inj new ▸ hw
  cases m with
  | close => exact ⟨c.placed, c.asked, c.worked⟩
  | look => exact c.snoc rfl c.placed other other
  | send => exact c.snoc rfl c.placed other other
  | take => exact c.snoc rfl (c.set other) other other
  | stop => exact ⟨c.set other, c.asked, c.worked⟩
  | passOver _ _ flag => exact c.snoc rfl (c.set other) other (done (cancelled flag))
  | begin => exact ⟨c.set other, c.asked, c.worked⟩
  | advance here phase ready =>
    refine c.snoc rfl (c.set fun x placed => ?_) other other
    rcases ExecutionSettings.advance?_eq_ok ready with
      ⟨ws, rfl, rfl, -⟩ | ⟨ws, rfl, rfl, -⟩ | ⟨ws, text, rfl, rfl, patched, written⟩
    · cases placed
    · cases placed
    · obtain rfl := Option.some.inj placed
      exact ⟨rfl, text, _, _, patched, written⟩
  | giveUp _ _ failed => exact c.snoc rfl (c.set other) other (done ⟨_, _, _, failed⟩)
  | @ask slot w j workspace artifact call here phase asked =>
    subst asked
    have written : Placement.Written sched.settings ⟨j, workspace, artifact⟩ :=
      c.placed w (List.mem_of_getElem? here) _ (by rw [Worker.placed?, phase])
    refine c.snoc rfl (c.set fun x placed => Option.some.inj placed ▸ written) ?_ other
    intro x new
    obtain rfl := Option.some.inj new
    exact ⟨_, rfl, written, rfl⟩
  | @finish slot w j call _ _ here phase =>
    have waiting : (j, call) ∈ w.calling := by simp [Worker.calling, phase]
    exact c.snoc rfl (c.set other) other
      (done (c.asked _ (calling w (List.mem_of_getElem? here) _ waiting)))
  | cancel => exact c.snoc rfl c.placed other other
  | conclude => exact ⟨c.placed, c.asked, c.worked⟩

theorem Accounted.calling {sched : Scheduler} {stream : List Offer} {s : State}
    (h : Accounted sched stream s) : ∀ w ∈ s.workers, ∀ x ∈ w.calling, x ∈ s.history.calls := by
  intro w here x waiting
  exact h.called.subset (List.mem_append_left _ (List.mem_flatMap.mpr ⟨w, here, waiting⟩))

theorem Reachable.conducted {sched : Scheduler} {workers : Nat} {stream : List Offer} {d : Disk}
    {s : State} (h : Reachable sched (.initial workers stream d) s) :
    Conducted sched.settings s := by
  induction h with
  | start =>
    refine ⟨fun w member x placed => ?_, by simp [State.initial, History.calls],
      by simp [State.initial, History.worked]⟩
    rw [List.eq_of_mem_replicate member] at placed
    cases placed
  | step a before step ih =>
    exact (move_of_step? step).conducted before.controlled.cancelled.mp before.accounted.calling ih

/-- The runner is asked at most once about each job that entered the queue. -/
theorem Accounted.calls_subperm {sched : Scheduler} {stream : List Offer} {s : State}
    (h : Accounted sched stream s) : (s.calls.map Prod.fst).Subperm s.history.queued := by
  have waiting : ((s.workers.flatMap Worker.calling).map Prod.fst).Sublist
      (s.workers.flatMap Worker.inHand) := by
    induction s.workers with
    | nil => exact .slnil
    | cons w ws ih =>
      rw [List.flatMap_cons, List.flatMap_cons, List.map_append]
      refine .append ?_ ih
      unfold Worker.calling Worker.inHand
      cases w.phase <;> simp
  have answered : ((s.history.worked.filterMap Settled.call?).map Prod.fst).Sublist
      (s.history.worked.map Settled.job) := by
    induction s.history.worked with
    | nil => exact .slnil
    | cons x xs ih =>
      obtain ⟨j, fate⟩ := x
      cases fate with
      | tried call answer => exact ih.cons_cons j
      | _ => exact ih.cons j
  have taken : s.history.taken.Sublist s.history.queued := by
    rw [← h.fifo]
    exact List.sublist_append_left _ _
  have split := h.called.map Prod.fst
  rw [List.map_append] at split
  have hands := (waiting.append answered).subperm
  exact (split.symm.subperm.trans hands).trans (h.worked.subperm.trans taken.subperm)

/-- What the dispatcher is done with was not prepared and not asked about. -/
theorem fate_of_aside {o : Offer} {x : Settled} (h : o.aside? = some x) :
    x.fate = .uncovered ∨ x.fate = .ignored := by
  obtain ⟨source, item⟩ := o
  cases item with
  | notCovered m =>
    obtain rfl := Option.some.inj h
    exact .inl rfl
  | skipped m =>
    obtain rfl := Option.some.inj h
    exact .inr rfl
  | mutant m => cases h
  | fault d => cases h

/-- A mutant for which there was no workspace is one whose preparation failed. -/
theorem Conducted.unprepared {s : ExecutionSettings} {u : State} (c : Conducted s u) {x : Settled}
    (member : x ∈ u.history.settled) {e : WorkspaceError} (failed : x.fate = .unprepared e) :
    ∃ slot d stage, s.advance? slot x.job d stage = some (.error e) := by
  rw [History.settled, List.mem_append] at member
  rcases member with aside | worked
  · obtain ⟨o, -, aside⟩ := List.mem_filterMap.mp aside
    rcases fate_of_aside aside with fate | fate
    · cases failed.symm.trans fate
    · cases failed.symm.trans fate
  · have warranted := c.worked x worked
    rwa [Warranted, failed] at warranted

namespace Sample

private def product (name : String) (m n : Int64) (start : Nat) : Node :=
  { kind := .exprStmt, children := [{ kind := .assign, children := [.leaf (.variableRef name),
    { kind := .binary .mul, children := [.leaf (.int m), .leaf (.int n)],
      span := some ⟨start, start + 5, 1, 1⟩ }] }] }

/-- A file that is not below the folder from which locations are meant. -/
def shared : SourceFile where
  path := "../calc.php"
  text := "$a = 3 * 5; $b = 4 * 6;"
  ast := { kind := .module, children := [product "$a" 3 5 5, product "$b" 4 6 17] }

end Sample

end MutationTesting.Scheduler
