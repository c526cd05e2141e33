import MutationTesting.Execution.Workspace

/-! Trying one mutant: a workspace is made, the runner is asked, its answer is judged, and the
workspace is removed whatever happened. -/
namespace MutationTesting

structure Job where
  mutant : Mutant
  source : SourceFile

namespace Job

def record (style : PrintStyle) (j : Job) : MutantRecord := j.mutant.record style j.source.text

def result (s : ExecutionSettings) (j : Job) (outcome : Outcome) : MutantResult :=
  ⟨j.record s.printer, outcome⟩

end Job

/-- The outcome of a mutant for which there is no usable workspace. -/
def Outcome.unprepared (e : WorkspaceError) : Outcome :=
  { kind := .errored, diagnostic := some e.message }

/-- How far the preparation of a job has come. -/
inductive Stage where
  /-- Nothing is there yet. -/
  | bare
  /-- There is an empty workspace. -/
  | housed (workspace : Location)
  /-- The workspace holds what the project holds. -/
  | furnished (workspace : Location)
  /-- The changed file is written. -/
  | placed (workspace artifact : Location)

namespace Stage

def workspace? : Stage → Option Location
  | bare => none
  | housed workspace | furnished workspace | placed workspace _ => some workspace

/-- The disk once the work is given up: a workspace that is there is removed. -/
def abandon (stage : Stage) (d : Disk) : Disk := stage.workspace?.elim d d.removeAt

end Stage

namespace ExecutionSettings

def request (s : ExecutionSettings) (j : Job) (workspace artifact : Location) : TestRequest where
  selection := .forMutant j.mutant
  artifact
  workspace
  timeoutMs := 1000 * s.timeoutSeconds

/-- The next stage of a preparation and the disk then, unless all is prepared. Others may use the
disk between two stages. -/
def advance? (s : ExecutionSettings) (slot : Nat) (j : Job) (d : Disk) :
    Stage → Option (Except WorkspaceError (Stage × Disk))
  | .bare => some do
    let (workspace, d) ← Workspace.makeEmpty s.workspaceRoot slot d
    return (.housed workspace, d)
  | .housed workspace => some do
    return (.furnished workspace, ← Workspace.furnish s workspace d)
  | .furnished workspace => some do
    let (artifact, d) ← Workspace.placeMutant s.printer j.source j.mutant workspace d
    return (.placed workspace artifact, d)
  | .placed .. => none

/-- Prepares a job without a pause: the request to make, and the disk to make it on. -/
def prepare (s : ExecutionSettings) (slot : Nat) (j : Job) (d : Disk) :
    Except WorkspaceError (TestRequest × Disk) := do
  let (workspace, d) ← Workspace.make s slot d
  let (artifact, d) ← Workspace.placeMutant s.printer j.source j.mutant workspace d
  return (s.request j workspace artifact, d)

def judge (s : ExecutionSettings) : AdapterAnswer → Outcome
  | .report r => s.classify r 0
  | .hangs => s.classify .stopped 0
  | .panics message =>
    { kind := .errored, diagnostic := some ("test adapter failed: " ++ message) }

def attempt (s : ExecutionSettings) (adapter : Adapter) (slot : Nat) (j : Job) (d : Disk) :
    MutantResult × List AdapterCall × Disk :=
  match s.prepare slot j d with
  | .error e => (j.result s (.unprepared e), [], d)
  | .ok (request, d) =>
    let reply := adapter request d
    (j.result s (s.judge reply.answer), [⟨request, d⟩], reply.disk.removeAt request.workspace)

end ExecutionSettings
end MutationTesting
