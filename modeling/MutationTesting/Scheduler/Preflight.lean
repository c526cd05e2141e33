import MutationTesting.Scheduler.Basic
import MutationTesting.Execution.Trial

/-! Checks before a run: what would otherwise fail every mutant in the same way, and whether the
tests pass on the unmodified sources. -/
namespace MutationTesting.Scheduler

/-- The first obstacle to a run; without one, the disk with a folder for workspaces. -/
def preflight (s : Scheduler) (sources : List SourceFile) (registry : Registry) (d : Disk) :
    Except EngineError Disk := do
  if registry.operators.isEmpty then throw (.config .noMutators)
  if sources.isEmpty then throw .noSources
  if let some empty := sources.find? SourceFile.isEmpty then throw (.emptyTree empty.path)
  if let some project := s.settings.projectRoot then
    if !d.isFolder project then throw (.projectRootMissing project)
  let root := s.settings.workspaceRoot
  (d.makeFolders root).mapError (.workspaceUnwritable root)

def placeSources (sources : List SourceFile) (workspace : Location) (d : Disk) :
    Except WorkspaceError Disk :=
  sources.foldlM (fun d f => d.place (Workspace.locate workspace f.path) f.text) d

/-- The request for the whole suite on the unmodified sources; the first source stands for all. -/
def baselineRequest (s : Scheduler) (sources : List SourceFile) (d : Disk) :
    Except EngineError (TestRequest × Disk) := do
  let (workspace, d) ← (Workspace.make s.settings 0 d).mapError fun e => .baselineFailed e.message
  let d ← (placeSources sources workspace d).mapError fun e => .baselineFailed e.cause
  let artifact := match sources with
    | f :: _ => Workspace.locate workspace f.path
    | [] => workspace
  return ({ selection := .all, artifact, workspace, timeoutMs := 1000 * s.settings.timeoutSeconds },
    d)

def baselineVerdict (s : ExecutionSettings) (r : AdapterReport) : Except EngineError Unit :=
  match r.exit with
  | .exited _ =>
    if r.passed then .ok ()
    else .error (.baselineFailed (Text.truncate r.details s.maxOutputBytes))
  | .timedOut => .error (.baselineFailed ("timed out after " ++ toString s.timeoutSeconds ++ "s"))
  | .launchFailed reason => .error (.baselineFailed reason)
  | .crashed _ => .error (.baselineFailed (Text.truncate r.details s.maxOutputBytes))

/-- The verdict on an answer; a runner that does not answer in time is stopped. -/
def baselineAnswer (s : ExecutionSettings) : AdapterAnswer → Except Interruption Unit
  | .report r => (baselineVerdict s r).mapError .error
  | .hangs => (baselineVerdict s .stopped).mapError .error
  | .panics message => .error (.panic message)

/-- Runs the suite on the unmodified sources: the verdict, the call that was made, and the disk
without the workspace. -/
def runBaseline (s : Scheduler) (adapter : Adapter) (sources : List SourceFile) (d : Disk) :
    Except Interruption Unit × List AdapterCall × Disk :=
  match s.baselineRequest sources d with
  | .error e => (.error (.error e), [], d)
  | .ok (request, d) =>
    let reply := adapter request d
    (baselineAnswer s.settings reply.answer, [⟨request, d⟩],
      reply.disk.removeAt request.workspace)

end MutationTesting.Scheduler
