import MutationTesting.Proofs.Execution.Lodging
import MutationTesting.Proofs.Scheduler.Since

/-! Which workspaces there are: a worker makes one while it prepares a job, and it is gone from the
disk when the worker is done with the job, however that ends. -/
namespace MutationTesting.Scheduler

def Worker.workspace? (w : Worker) : Option Location :=
  match w.phase with
  | .preparing _ stage => stage.workspace?
  | .running _ call => some call.request.workspace
  | .waiting | .holding _ | .stopped => none

namespace State

def workspaceAt (s : State) (slot : Nat) : Option Location :=
  s.workers[slot]?.bind Worker.workspace?

def workspaces (s : State) : List Location := s.workers.filterMap Worker.workspace?

end State

/-- A worker has made itself a workspace where nothing was. -/
structure Houses (sched : Scheduler) (s t : State) (slot : Nat) (workspace : Location) : Prop where
  lodging : ∃ n, Lodging (s.disk.absolute sched.settings.workspaceRoot) (Workspace.name slot n)
    workspace
  before : s.workspaceAt slot = none
  after : t.workspaceAt slot = some workspace
  others : ∀ i ≠ slot, t.workspaceAt i = s.workspaceAt i
  fresh : s.disk.exists? workspace = false
  made : t.disk.isFolder workspace = true

/-- A worker has no workspace any more, and the one it had is gone. -/
structure Clears (s t : State) (slot : Nat) (workspace : Location) : Prop where
  before : s.workspaceAt slot = some workspace
  after : t.workspaceAt slot = none
  others : ∀ i ≠ slot, t.workspaceAt i = s.workspaceAt i
  gone : t.disk.exists? workspace = false

/-- Every workspace is in some directory. -/
def Lodged (s : State) : Prop :=
  ∀ slot workspace, s.workspaceAt slot = some workspace →
    ∃ directory name, Lodging directory name workspace

variable {sched : Scheduler} {start s t : State} {a : Action} {slot : Nat} {w w' : Worker}

theorem State.workspaceAt_of_worker (here : s.workers[slot]? = some w) :
    s.workspaceAt slot = w.workspace? := by
  rw [workspaceAt, here, Option.bind_some]

private theorem State.workspaceAt_set_self (here : s.workers[slot]? = some w)
    (workers : t.workers = s.workers.set slot w') : t.workspaceAt slot = w'.workspace? := by
  have within := (List.getElem?_eq_some_iff.mp here).1
  rw [workspaceAt, workers, List.getElem?_set_self within, Option.bind_some]

private theorem State.workspaceAt_set_ne {i : Nat} (workers : t.workers = s.workers.set slot w')
    (other : i ≠ slot) : t.workspaceAt i = s.workspaceAt i := by
  rw [workspaceAt, workers, List.getElem?_set_ne (Ne.symm other), workspaceAt]

private theorem workspaceAt_kept (here : s.workers[slot]? = some w)
    (workers : t.workers = s.workers.set slot w') (same : w'.workspace? = w.workspace?) :
    t.workspaceAt = s.workspaceAt := by
  funext i
  by_cases own : i = slot
  · rw [own, State.workspaceAt_set_self here workers, same, State.workspaceAt_of_worker here]
  · exact State.workspaceAt_set_ne workers own

/-- A worker that is done with its job has no workspace any more. -/
private theorem clears_settle {x : Settled} {workspace : Location} {d : Disk} (h : Lodged s)
    (here : s.workers[slot]? = some w) (had : w.workspace? = some workspace) :
    Clears s (State.settle { s with disk := d.removeAt workspace } sched.settings slot w x) slot
      workspace := by
  have before := (State.workspaceAt_of_worker here).trans had
  obtain ⟨directory, name, lodging⟩ := h slot workspace before
  exact ⟨before, (State.workspaceAt_set_self here rfl).trans rfl,
    fun _ => State.workspaceAt_set_ne rfl, lodging.exists?_removeAt d⟩

/-- A move makes one workspace, removes one or leaves all of them to those who have them. -/
theorem Move.workspaces (m : Move sched s a t) (h : Lodged s) :
    t.workspaceAt = s.workspaceAt ∨
      (∃ slot workspace, a = .prepare slot ∧ Houses sched s t slot workspace) ∨
      ∃ slot workspace, Clears s t slot workspace := by
  cases m with
  | close => exact .inl rfl
  | look => exact .inl rfl
  | send => exact .inl rfl
  | take here phase =>
    exact .inl (workspaceAt_kept here rfl (by simp [Worker.workspace?, phase]))
  | stop here phase =>
    exact .inl (workspaceAt_kept here rfl (by simp [Worker.workspace?, phase]))
  | passOver here phase =>
    exact .inl (workspaceAt_kept here rfl (by simp [Worker.workspace?, Worker.finished, phase]))
  | begin here phase =>
    exact .inl (workspaceAt_kept here rfl (by simp [Worker.workspace?, Stage.workspace?, phase]))
  | @advance slot w j stage next disk here phase ready =>
    rcases ExecutionSettings.advance?_eq_ok ready with
      ⟨ws, rfl, rfl, made⟩ | ⟨ws, rfl, rfl, -⟩ | ⟨ws, text, rfl, rfl, -⟩
    · obtain ⟨lodging, fresh, folder, -⟩ := Workspace.makeEmpty_eq_ok made
      have before : s.workspaceAt slot = none := by
        rw [State.workspaceAt_of_worker here, Worker.workspace?, phase]
        rfl
      exact .inr (.inl ⟨slot, ws, rfl, lodging, before,
        (State.workspaceAt_set_self here rfl).trans rfl, fun _ => State.workspaceAt_set_ne rfl,
        fresh, folder⟩)
    · exact .inl (workspaceAt_kept here rfl (by simp [Worker.workspace?, Stage.workspace?, phase]))
    · exact .inl (workspaceAt_kept here rfl (by simp [Worker.workspace?, Stage.workspace?, phase]))
  | @giveUp slot w j stage e here phase =>
    have had : w.workspace? = stage.workspace? := by rw [Worker.workspace?, phase]
    cases there : stage.workspace? with
    | none =>
      refine .inl (workspaceAt_kept here rfl ?_)
      rw [had, there]
      rfl
    | some ws =>
      rw [Stage.abandon, there, Option.elim_some]
      exact .inr (.inr ⟨slot, ws, clears_settle h here (had.trans there)⟩)
  | ask here phase asked =>
    exact .inl (workspaceAt_kept here rfl (by
      simp [Worker.workspace?, Stage.workspace?, phase, asked, ExecutionSettings.request]))
  | @finish slot w j call answer disk here phase =>
    exact .inr (.inr ⟨slot, call.request.workspace, clears_settle h here (by
      rw [Worker.workspace?, phase])⟩)
  | cancel => exact .inl rfl
  | conclude => exact .inl rfl

theorem Move.lodged (m : Move sched s a t) (h : Lodged s) : Lodged t := by
  intro i workspace there
  rcases m.workspaces h with same | ⟨slot, made, -, houses⟩ | ⟨slot, gone, clears⟩
  · exact h i workspace (same ▸ there)
  · by_cases own : i = slot
    · subst own
      obtain rfl := Option.some.inj (houses.after.symm.trans there)
      obtain ⟨n, lodging⟩ := houses.lodging
      exact ⟨_, _, lodging⟩
    · exact h i workspace ((houses.others i own).symm.trans there)
  · by_cases own : i = slot
    · subst own
      cases clears.after.symm.trans there
    · exact h i workspace ((clears.others i own).symm.trans there)

theorem State.workspaceAt_initial (workers : Nat) (stream : List Offer) (d : Disk) :
    (initial workers stream d).workspaceAt slot = none := by
  unfold workspaceAt initial
  by_cases within : slot < workers
  · simp [within, Worker.workspace?]
  · simp [within]

variable {workers : Nat} {stream : List Offer} {d : Disk}

theorem Reachable.lodged (run : Reachable sched (.initial workers stream d) s) : Lodged s := by
  refine run.invariant (fun slot workspace there => ?_) Move.lodged
  cases (State.workspaceAt_initial workers stream d).symm.trans there

/-- A worker that comes to an empty workspace has that workspace. -/
private theorem Move.housed {workspace : Location} (m : Move sched s a t)
    (next : t.history = s.history ++ [.reached slot (.housed workspace)]) :
    t.workspaceAt slot = some workspace := by
  cases m with
  | advance here =>
    obtain ⟨rfl, rfl⟩ := Event.reached.inj (List.singleton_inj.mp (List.append_cancel_left next))
    exact (State.workspaceAt_set_self here rfl).trans rfl
  | _ => simp at next

end MutationTesting.Scheduler
