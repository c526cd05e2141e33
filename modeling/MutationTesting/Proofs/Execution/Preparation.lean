import MutationTesting.Execution.Trial
import MutationTesting.Proofs.Disk.Write

/-! What the preparation of a job leaves on the disk, and why it may fail. -/
namespace MutationTesting

def Job.patched (s : ExecutionSettings) (j : Job) : Except ShapeError String :=
  patchSource s.printer j.source j.mutant.path j.mutant.replacement

namespace AdapterCall

/-- What the runner reads where it is told to. -/
def text (call : AdapterCall) : Except DiskFailure String :=
  call.disk.readText call.request.artifact

end AdapterCall

namespace ExecutionSettings

variable {s : ExecutionSettings} {slot : Nat} {j : Job} {d d' : Disk} {workspace : Location}

private theorem placeMutant_eq_ok {artifact : Location}
    (h : Workspace.placeMutant s.printer j.source j.mutant workspace d = .ok (artifact, d')) :
    artifact = Workspace.locate workspace j.mutant.file ∧
      ∃ text, j.patched s = .ok text ∧ d.place artifact text = .ok d' := by
  obtain ⟨text, patched, h⟩ := bind_eq_ok.mp h
  obtain ⟨d₁, placed, h⟩ := bind_eq_ok.mp h
  obtain ⟨rfl, rfl⟩ := Prod.mk.inj (Except.ok.inj h)
  exact ⟨rfl, text, mapError_eq_ok.mp patched, placed⟩

/-- What each step of a preparation does: a workspace is made, the project is copied into it, the
changed file is written. -/
theorem advance?_eq_ok {stage next : Stage} (h : s.advance? slot j d stage = some (.ok (next, d'))) :
    (∃ w, stage = .bare ∧ next = .housed w ∧
      Workspace.makeEmpty s.workspaceRoot slot d = .ok (w, d')) ∨
    (∃ w, stage = .housed w ∧ next = .furnished w ∧ Workspace.furnish s w d = .ok d') ∨
    ∃ w text, stage = .furnished w ∧ next = .placed w (Workspace.locate w j.mutant.file) ∧
      j.patched s = .ok text ∧ d.place (Workspace.locate w j.mutant.file) text = .ok d' := by
  cases stage with
  | bare =>
    obtain ⟨⟨w, d₁⟩, made, h⟩ := bind_eq_ok.mp (Option.some.inj h)
    obtain ⟨rfl, rfl⟩ := Prod.mk.inj (Except.ok.inj h)
    exact .inl ⟨w, rfl, rfl, made⟩
  | housed w =>
    obtain ⟨d₁, copied, h⟩ := bind_eq_ok.mp (Option.some.inj h)
    obtain ⟨rfl, rfl⟩ := Prod.mk.inj (Except.ok.inj h)
    exact .inr (.inl ⟨w, rfl, rfl, copied⟩)
  | furnished w =>
    obtain ⟨⟨artifact, d₁⟩, placed, h⟩ := bind_eq_ok.mp (Option.some.inj h)
    obtain ⟨rfl, rfl⟩ := Prod.mk.inj (Except.ok.inj h)
    obtain ⟨rfl, text, patched, placed⟩ := placeMutant_eq_ok placed
    exact .inr (.inr ⟨w, text, rfl, rfl, patched, placed⟩)
  | placed w artifact => cases h

/-- Without a pause the three steps are one. -/
theorem prepare_of_advance? {d₁ d₂ d₃ : Disk} {artifact : Location}
    (first : s.advance? slot j d .bare = some (.ok (.housed workspace, d₁)))
    (second : s.advance? slot j d₁ (.housed workspace) = some (.ok (.furnished workspace, d₂)))
    (third : s.advance? slot j d₂ (.furnished workspace) =
      some (.ok (.placed workspace artifact, d₃))) :
    s.prepare slot j d = .ok (s.request j workspace artifact, d₃) := by
  obtain ⟨⟨w, _⟩, made, h⟩ := bind_eq_ok.mp (Option.some.inj first)
  obtain ⟨⟨⟩, rfl⟩ := Prod.mk.inj (Except.ok.inj h)
  obtain ⟨_, copied, h⟩ := bind_eq_ok.mp (Option.some.inj second)
  obtain ⟨-, rfl⟩ := Prod.mk.inj (Except.ok.inj h)
  obtain ⟨⟨a, _⟩, placed, h⟩ := bind_eq_ok.mp (Option.some.inj third)
  obtain ⟨same, rfl⟩ := Prod.mk.inj (Except.ok.inj h)
  obtain ⟨-, rfl⟩ := Stage.placed.inj same
  simp only [prepare, Workspace.make, made, copied, placed, ok_bind, pure_eq_ok]

theorem prepare_ok {request : TestRequest} {disk : Disk}
    (h : s.prepare slot j d = .ok (request, disk)) :
    ∃ text, j.patched s = .ok text ∧ AdapterCall.text ⟨request, disk⟩ = .ok text ∧
      request.selection = .forMutant j.mutant := by
  obtain ⟨⟨workspace, d₁⟩, -, h⟩ := bind_eq_ok.mp h
  obtain ⟨⟨artifact, d₂⟩, placed, h⟩ := bind_eq_ok.mp h
  obtain ⟨rfl, rfl⟩ := Prod.mk.inj (Except.ok.inj h)
  obtain ⟨rfl, text, patched, placed⟩ := placeMutant_eq_ok placed
  exact ⟨text, patched, Disk.readText_of_place placed, rfl⟩

private theorem place_ne_notPatched {file : Location} {text : String} {f : Location} {p : Path}
    {cause : ShapeError} : d.place file text ≠ .error (.notPatched f p cause) := by
  unfold Disk.place
  split
  · refine bind_ne_error (mapError_ne_error fun _ same => by cases same) fun d₁ => ?_
    exact mapError_ne_error fun _ same => by cases same
  · exact mapError_ne_error fun _ same => by cases same

private theorem makeEmpty_ne_notPatched {root f : Location} {p : Path} {cause : ShapeError} :
    Workspace.makeEmpty root slot d ≠ .error (.notPatched f p cause) := by
  refine bind_ne_error (mapError_ne_error fun _ same => by cases same) fun d₁ => ?_
  refine bind_ne_error (mapError_ne_error fun _ same => by cases same) fun q => ?_
  refine bind_ne_error (mapError_ne_error fun _ same => by cases same) fun d₂ => ?_
  exact fun h => by cases h

private theorem furnish_ne_notPatched {f : Location} {p : Path} {cause : ShapeError} :
    Workspace.furnish s workspace d ≠ .error (.notPatched f p cause) := by
  unfold Workspace.furnish
  split
  · exact fun h => by cases h
  · exact mapError_ne_error fun _ same => by cases same

/-- A failure to patch is one of the text, and not of the disk. -/
theorem advance?_notPatched {stage : Stage} {f : Location} {p : Path} {cause : ShapeError}
    (h : s.advance? slot j d stage = some (.error (.notPatched f p cause))) :
    j.patched s = .error cause ∧ f = j.source.path ∧ p = j.mutant.path := by
  cases stage with
  | bare =>
    rcases bind_eq_error.mp (Option.some.inj h) with h | ⟨_, -, h⟩
    · exact (makeEmpty_ne_notPatched h).elim
    · cases h
  | housed w =>
    rcases bind_eq_error.mp (Option.some.inj h) with h | ⟨_, -, h⟩
    · exact (furnish_ne_notPatched h).elim
    · cases h
  | furnished w =>
    rcases bind_eq_error.mp (Option.some.inj h) with h | ⟨_, -, h⟩
    · rcases bind_eq_error.mp h with h | ⟨text, -, h⟩
      · obtain ⟨cause', failed, same⟩ := mapError_eq_error.mp h
        obtain ⟨rfl, rfl, rfl⟩ := WorkspaceError.notPatched.inj same
        exact ⟨failed, rfl, rfl⟩
      · rcases bind_eq_error.mp h with h | ⟨_, -, h⟩
        · exact (place_ne_notPatched h).elim
        · cases h
    · cases h
  | placed w artifact => cases h

end ExecutionSettings
end MutationTesting
