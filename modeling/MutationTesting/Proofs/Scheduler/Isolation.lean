import MutationTesting.Proofs.Mutant.Origin
import MutationTesting.Proofs.Scheduler.Accounting
import MutationTesting.Proofs.Scheduler.Workspaces

/-! Why workers do not come in each other's way.

If no source leads out of a workspace and runners leave the workspaces of others alone, then what a
worker has written stays as it is until the worker is done with its job. -/
namespace MutationTesting.Scheduler

structure Placement where
  job : Job
  workspace : Location
  artifact : Location

/-- The changed file is where it belongs, and the disk has its text. -/
structure Placement.Ready (s : ExecutionSettings) (d : Disk) (x : Placement) : Prop where
  located : x.artifact = Workspace.locate x.workspace x.job.mutant.file
  text : ∃ text, x.job.patched s = .ok text ∧ d.readText x.artifact = .ok text

def Worker.placed? (w : Worker) : Option Placement :=
  match w.phase with
  | .preparing j (.placed workspace artifact) => some ⟨j, workspace, artifact⟩
  | .running j call => some ⟨j, call.request.workspace, call.request.artifact⟩
  | _ => none

/-- A runner leaves the sources in the workspaces of others as they are. -/
def Tidy (s : State) : Action → Prop
  | .finish slot _ disk => disk.current = s.disk.current ∧
    ∀ i ≠ slot, ∀ workspace, s.workspaceAt i = some workspace → ∀ file,
      disk.readText (Workspace.locate workspace file) =
        s.disk.readText (Workspace.locate workspace file)
  | _ => True

structure Isolated (sched : Scheduler) (directory : Location) (s : State) : Prop where
  root : s.disk.absolute sched.settings.workspaceRoot = directory
  lodging : ∀ slot workspace, s.workspaceAt slot = some workspace →
    ∃ n, Lodging directory (Workspace.name slot n) workspace
  ready : ∀ w ∈ s.workers, ∀ x, w.placed? = some x → x.Ready sched.settings s.disk

/-- The sources of the jobs in hand do not lead out of a workspace. -/
def StaysInside (s : State) : Prop :=
  ∀ w ∈ s.workers, ∀ j ∈ w.inHand, ∃ names, Workspace.names? j.mutant.file = some names

/-- A disk on which all that the other workers have written is as it was. -/
structure Spares (s : State) (slot : Nat) (d : Disk) : Prop where
  current : d.current = s.disk.current
  texts : ∀ i ≠ slot, ∀ w, s.workers[i]? = some w → ∀ x, w.placed? = some x → ∀ text,
    s.disk.readText x.artifact = .ok text → d.readText x.artifact = .ok text

variable {sched : Scheduler} {directory : Location} {s t : State} {a : Action} {slot : Nat}
  {w w' : Worker} {x : Placement} {d d' : Disk}

private theorem Worker.workspace?_of_placed? (h : w.placed? = some x) :
    w.workspace? = some x.workspace ∧ w.inHand = [x.job] := by
  unfold placed? at h
  unfold workspace? inHand
  split at h
  · next phase =>
    obtain rfl := Option.some.inj h
    rw [phase]
    exact ⟨rfl, rfl⟩
  · next phase =>
    obtain rfl := Option.some.inj h
    rw [phase]
    exact ⟨rfl, rfl⟩
  · cases h

private theorem Disk.absolute_eq_of_current (same : d'.current = d.current) (l : Location) :
    d'.absolute l = d.absolute l := by
  rw [Disk.absolute, same, Disk.absolute]

namespace Spares

theorem refl : Spares s slot s.disk := ⟨rfl, fun _ _ _ _ _ _ _ read => read⟩

/-- What is kept everywhere is kept for the others. -/
private theorem of_keeps (h : ∀ q, Disk.Keeps q s.disk d) : Spares s slot d where
  current := (h []).current
  texts _ _ _ _ _ _ _ read := Disk.readText_keeps read (h _)

end Spares

namespace Isolated

variable {workspace : Location}

/-- Where another worker has written, in terms of the names of the workspaces. -/
private theorem of_placed {i : Nat} (h : Isolated sched directory s) (inside : StaysInside s)
    (other : i ≠ slot) (here : s.workers[i]? = some w) (placed : w.placed? = some x) :
    ∃ name, Lodging directory name x.workspace ∧ (∀ n, Workspace.name slot n ≠ name) ∧
      x.artifact = Workspace.locate x.workspace x.job.mutant.file ∧
      ∃ names, Workspace.names? x.job.mutant.file = some names := by
  have member := List.mem_of_getElem? here
  obtain ⟨had, hand⟩ := Worker.workspace?_of_placed? placed
  obtain ⟨m, lodging⟩ := h.lodging i _ ((State.workspaceAt_of_worker here).trans had)
  refine ⟨_, lodging, fun n same => other (Workspace.slot_of_name same).symm,
    (h.ready w member x placed).located, inside w member _ ?_⟩
  rw [hand]
  exact List.mem_singleton_self _

/-- What happens within a workspace does not touch those of others. -/
private theorem spares_of_sameOutside {n : Nat} (h : Isolated sched directory s)
    (inside : StaysInside s) (lodging : Lodging directory (Workspace.name slot n) workspace)
    (out : Disk.SameOutside (directory.base ++ [Workspace.name slot n]) s.disk d) :
    Spares s slot d where
  current := out.current
  texts i other w here x placed text read := by
    obtain ⟨name, lodging', apart, located, names, within⟩ := h.of_placed inside other here placed
    rw [located] at read ⊢
    rw [lodging'.readText_locate lodging (apart n) within out, read]

private theorem spares_of_place {n : Nat} {j : Job} {names : List String} {text : String}
    (h : Isolated sched directory s) (inside : StaysInside s)
    (lodging : Lodging directory (Workspace.name slot n) workspace)
    (within : Workspace.names? j.mutant.file = some names)
    (placed : s.disk.place (Workspace.locate workspace j.mutant.file) text = .ok d) :
    Spares s slot d where
  current := Disk.place_current placed
  texts i other w here x put text read := by
    obtain ⟨name, lodging', apart, located, names', within'⟩ := h.of_placed inside other here put
    rw [located] at read ⊢
    exact Disk.readText_keeps read
      (Disk.keeps_place placed (lodging'.placeFrom_locate_ne lodging (apart n) within' within))

private theorem spares_removeAt (h : Isolated sched directory s) (inside : StaysInside s)
    (here : s.workers[slot]? = some w) (had : w.workspace? = some workspace)
    (spares : Spares s slot d) : Spares s slot (d.removeAt workspace) := by
  obtain ⟨n, lodging⟩ := h.lodging slot workspace ((State.workspaceAt_of_worker here).trans had)
  have out := lodging.sameOutside_removeAt d
  refine ⟨out.current.trans spares.current, fun i other v there x placed text read => ?_⟩
  obtain ⟨name, lodging', apart, located, names, within⟩ := h.of_placed inside other there placed
  have kept := spares.texts i other v there x placed text read
  rw [located] at kept ⊢
  rw [lodging'.readText_locate lodging (apart n) within out, kept]

private theorem spares_of_tidy {answer : AdapterAnswer} (h : Isolated sched directory s)
    (tidy : Tidy s (.finish slot answer d)) : Spares s slot d where
  current := tidy.1
  texts i other w here x placed text read := by
    have there := (State.workspaceAt_of_worker here).trans (Worker.workspace?_of_placed? placed).1
    have located := (h.ready w (List.mem_of_getElem? here) x placed).located
    rw [located] at read ⊢
    rw [tidy.2 i other _ there, read]

/-- A stage of a preparation leaves what the others have written, and the last one writes what is
to be tried. -/
private theorem of_advance? {j : Job} {stage next : Stage} (h : Isolated sched directory s)
    (inside : StaysInside s) (here : s.workers[slot]? = some w)
    (phase : w.phase = .preparing j stage)
    (ready : sched.settings.advance? slot j s.disk stage = some (.ok (next, d))) :
    Spares s slot d ∧ ∀ x, Worker.placed? { w with phase := .preparing j next } = some x →
      x.Ready sched.settings d := by
  have had : s.workspaceAt slot = stage.workspace? := by
    rw [State.workspaceAt_of_worker here, Worker.workspace?, phase]
  rcases ExecutionSettings.advance?_eq_ok ready with
    ⟨ws, rfl, rfl, made⟩ | ⟨ws, rfl, rfl, copied⟩ | ⟨ws, text, rfl, rfl, patched, placed⟩
  · obtain ⟨-, -, -, kept⟩ := Workspace.makeEmpty_eq_ok made
    exact ⟨.of_keeps kept, fun x none_ => by cases none_⟩
  · obtain ⟨n, lodging⟩ := h.lodging slot ws had
    exact ⟨h.spares_of_sameOutside inside lodging (lodging.sameOutside_furnish copied),
      fun x none_ => by cases none_⟩
  · obtain ⟨n, lodging⟩ := h.lodging slot ws had
    have hand : j ∈ w.inHand := by simp [Worker.inHand, phase]
    obtain ⟨names, within⟩ := inside w (List.mem_of_getElem? here) j hand
    refine ⟨h.spares_of_place inside lodging within placed, fun x written => ?_⟩
    obtain rfl := Option.some.inj written
    exact ⟨rfl, text, patched, Disk.readText_of_place placed⟩

theorem lodged (h : Isolated sched directory s) : Lodged s := by
  intro slot workspace there
  obtain ⟨n, lodging⟩ := h.lodging slot workspace there
  exact ⟨_, _, lodging⟩

/-- One worker changes, and all that the others have written stays. -/
theorem change (h : Isolated sched directory s) (m : Move sched s a t)
    (here : s.workers[slot]? = some w) (workers : t.workers = s.workers.set slot w')
    (spares : Spares s slot t.disk)
    (own : ∀ x, w'.placed? = some x → x.Ready sched.settings t.disk) :
    Isolated sched directory t where
  root := (Disk.absolute_eq_of_current spares.current _).trans h.root
  lodging := by
    intro i workspace there
    rcases m.workspaces h.lodged with same | ⟨slot, made, -, houses⟩ | ⟨slot, gone, clears⟩
    · exact h.lodging i workspace (same ▸ there)
    · by_cases own : i = slot
      · subst own
        obtain rfl := Option.some.inj (houses.after.symm.trans there)
        exact h.root ▸ houses.lodging
      · exact h.lodging i workspace ((houses.others i own).symm.trans there)
    · by_cases own : i = slot
      · subst own
        cases clears.after.symm.trans there
      · exact h.lodging i workspace ((clears.others i own).symm.trans there)
  ready := by
    intro v member x placed
    obtain ⟨i, there⟩ := List.mem_iff_getElem?.mp member
    rw [workers] at there
    by_cases same : i = slot
    · subst same
      rw [List.getElem?_set_self (List.getElem?_eq_some_iff.mp here).1] at there
      obtain rfl := Option.some.inj there
      exact own x placed
    · rw [List.getElem?_set_ne (Ne.symm same)] at there
      obtain ⟨located, text, patched, read⟩ := h.ready v (List.mem_of_getElem? there) x placed
      exact ⟨located, text, patched, spares.texts i same v there x placed text read⟩

end Isolated

theorem Move.isolated (m : Move sched s a t) (tidy : Tidy s a) (inside : StaysInside s)
    (h : Isolated sched directory s) : Isolated sched directory t := by
  cases m with
  | close => exact ⟨h.root, h.lodging, h.ready⟩
  | look => exact ⟨h.root, h.lodging, h.ready⟩
  | send => exact ⟨h.root, h.lodging, h.ready⟩
  | take here phase first =>
    exact h.change (.take here phase first) here rfl .refl fun x placed => by cases placed
  | stop here phase empty closed =>
    exact h.change (.stop here phase empty closed) here rfl .refl fun x placed => by cases placed
  | passOver here phase flag =>
    exact h.change (.passOver here phase flag) here rfl .refl fun x placed => by cases placed
  | begin here phase goesOn =>
    exact h.change (.begin here phase goesOn) here rfl .refl fun x placed => by cases placed
  | advance here phase ready =>
    obtain ⟨spares, own⟩ := h.of_advance? inside here phase ready
    exact h.change (.advance here phase ready) here rfl spares own
  | @giveUp slot w j stage e here phase failed =>
    refine h.change (.giveUp here phase failed) here rfl ?_ fun x placed => by cases placed
    have had : w.workspace? = stage.workspace? := by rw [Worker.workspace?, phase]
    cases there : stage.workspace? with
    | none => rw [Stage.abandon, there]; exact .refl
    | some ws =>
      rw [Stage.abandon, there]
      exact h.spares_removeAt inside here (had.trans there) .refl
  | @ask slot w j workspace artifact call here phase asked =>
    refine h.change (.ask here phase asked) here rfl .refl fun x placed => ?_
    have before : w.placed? = some ⟨j, workspace, artifact⟩ := by rw [Worker.placed?, phase]
    subst asked
    obtain rfl := Option.some.inj placed
    exact h.ready w (List.mem_of_getElem? here) _ before
  | finish answer disk here phase =>
    refine h.change (.finish answer disk here phase) here rfl ?_ fun x placed => by cases placed
    exact h.spares_removeAt inside here (by rw [Worker.workspace?, phase]) (h.spares_of_tidy tidy)
  | cancel => exact ⟨h.root, h.lodging, h.ready⟩
  | conclude => exact ⟨h.root, h.lodging, h.ready⟩

variable {workers : Nat} {stream : List Offer}

def SourcesStayInside (stream : List Offer) : Prop :=
  ∀ j ∈ stream.filterMap Offer.job?, ∃ names, Workspace.names? j.mutant.file = some names

theorem Isolated.initial : Isolated sched (d.absolute sched.settings.workspaceRoot)
    (.initial workers stream d) where
  root := rfl
  lodging slot workspace there := by
    cases (State.workspaceAt_initial workers stream d).symm.trans there
  ready w member x placed := by
    rw [List.eq_of_mem_replicate member] at placed
    cases placed

theorem ReachableBy.isolated (run : ReachableBy sched Tidy (.initial workers stream d) s)
    (inside : SourcesStayInside stream) :
    Isolated sched (d.absolute sched.settings.workspaceRoot) s := by
  refine run.invariant .initial fun before tidy m h => ?_
  have account := before.reachable.accounted
  exact m.isolated tidy (fun w here j hand =>
    inside j (account.job_of_queued (account.queued_of_inHand here hand))) h

/-- What a call is about: the changed text of the job is where the runner is told to look. -/
def Finds (s : ExecutionSettings) (x : Job × AdapterCall) (d : Disk) : Prop :=
  ∃ text, x.1.patched s = .ok text ∧ d.readText x.2.request.artifact = .ok text

theorem Move.finds (m : Move sched s a t) (isolated : Isolated sched directory s)
    (h : ∀ x ∈ s.calls, Finds sched.settings x x.2.disk) :
    ∀ x ∈ t.calls, Finds sched.settings x x.2.disk := by
  cases m with
  | @ask slot w j workspace artifact call here phase asked =>
    intro x member
    rw [State.calls, State.note, History.calls_snoc, List.mem_append] at member
    rcases member with old | new
    · exact h x old
    · obtain rfl := List.mem_singleton.mp new
      have placed : w.placed? = some ⟨j, workspace, artifact⟩ := by rw [Worker.placed?, phase]
      subst asked
      exact (isolated.ready w (List.mem_of_getElem? here) _ placed).text
  | _ => simpa [State.calls] using h

/-- Whatever the other workers do, a runner finds the text that is to be tried, when it is asked and
as long as it is at work. -/
theorem ReachableBy.finds (run : ReachableBy sched Tidy (.initial workers stream d) s)
    (inside : SourcesStayInside stream) :
    (∀ x ∈ s.calls, Finds sched.settings x x.2.disk) ∧
      ∀ w ∈ s.workers, ∀ x ∈ w.calling, Finds sched.settings x s.disk := by
  constructor
  · refine run.invariant (fun x member => ?_) fun before _ m h => m.finds (before.isolated inside) h
    cases member
  · intro w here x calling
    unfold Worker.calling at calling
    split at calling
    · next j call phase =>
      obtain rfl := List.mem_singleton.mp calling
      have placed : w.placed? = some ⟨j, call.request.workspace, call.request.artifact⟩ := by
        rw [Worker.placed?, phase]
      exact ((run.isolated inside).ready w here _ placed).text
    · cases calling

namespace Sample

end Sample
end MutationTesting.Scheduler
