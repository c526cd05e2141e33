import MutationTesting.CommandLine.Help
import MutationTesting.CommandLine.Report
import MutationTesting.Config.Storage
import MutationTesting.Execution.CommandAdapter
import MutationTesting.Json.Writer
import MutationTesting.Scheduler.Run
import MutationTesting.Source.Load

/-! The program: from its arguments and a disk to what it prints, its exit code and the disk it
leaves behind. -/
namespace MutationTesting.CommandLine

structure Surroundings where
  home : Location
  /-- Where workspaces are made unless the configuration says otherwise. -/
  tempDir : Location
  /-- Mutants that the machine can try at the same time. -/
  machine : Nat

/-- Variables that the commands of the program find in their environment. -/
def Surroundings.environment (here : Surroundings) : List (String × String) :=
  [("HOME", here.home), ("TMPDIR", here.tempDir)]

inductive Failure where
  | configFile (cause : ConfigFileError)
  | config (cause : ConfigError)
  | source (cause : SourceLoadError)
  | coverage (path : Location) (cause : CoverageError)
  | engine (cause : EngineError)
  | alreadyThere (path : Location)
  | unwrittenReport (path : Location) (cause : DiskFailure)

def Failure.message : Failure → String
  | configFile cause => cause.message
  | config cause => cause.message
  | source cause => cause.message
  | coverage path _ => "Failed to load coverage from " ++ Text.quoted path
  | engine cause => cause.message
  | alreadyThere path => path ++ " already exists; pass --force to overwrite"
  | unwrittenReport path _ => "Failed to write report to " ++ Text.quoted path

structure Ending where
  code : Nat
  output : String := ""
  /-- What is said about an error. -/
  complaint : Option String := none
  disk : Disk

/-- Exit codes. A score below its minimum counts as a failure. -/
def failureCode : Nat := 1

def usageCode : Nat := 2

def panicCode : Nat := 101

def cancelledCode : Nat := 130

def textOfLines (lines : List String) : String := String.join (lines.map fun l => l ++ "\n")

def Ending.failed (d : Disk) (output : String) (e : Failure) : Ending :=
  { code := failureCode, output, complaint := some ("Error: " ++ e.message), disk := d }

def Ending.interrupted (d : Disk) : Interruption → Ending
  | .error e => .failed d "" (.engine e)
  | .panic message => { code := panicCode, complaint := some message, disk := d }
  | .unfinished => { code := failureCode, disk := d }

def loadSources (d : Disk) (paths : List Location) : Except Failure (List SourceFile) :=
  (paths.mapM fun path => SourceFile.load d path).mapError .source

def loadCoverage (d : Disk) (path : Option Location) : Except Failure (Option Coverage) :=
  match path with
  | none => .ok none
  | some path => ((Coverage.load d path).map some).mapError (.coverage path)

def initialize? (here : Surroundings) (path : Option Location) (force : Bool) (d : Disk) :
    Except Failure Ending := do
  let path := path.getD (Config.defaultLocation here.home)
  if d.exists? path && !force then throw (.alreadyThere path)
  let d ← (({} : Config).save d path).mapError .configFile
  return { code := 0, output := textOfLines ["Wrote default configuration to " ++ path], disk := d }

def list? (config : Config) (sources : List Location) (coverage : Option Location) (d : Disk) :
    Except Failure Ending := do
  let sources ← loadSources d sources
  let coverage ← loadCoverage d coverage
  let registry ← (Registry.ofSettings config.mutators).mapError .config
  let rules : GenerationRules := { registry, coverage, onlyCovered := config.run.onlyCovered }
  return { code := 0, output := textOfLines (rules.listing config.printer sources), disk := d }

def reportCode (scoring : ScoringSettings) (r : Report) : Nat :=
  match r.score.check scoring with
  | .error _ => failureCode
  | .ok _ => if r.isPartial then cancelledCode else 0

def finish (config : Config) (json : Option Location) (r : Report) (d : Disk) : Ending :=
  let output := textOfLines r.lines
  let written : Except Failure Disk := match json with
    | none => .ok d
    | some path => (d.writeText path (r.toJson.pretty 0)).mapError (.unwrittenReport path)
  match written with
  | .ok d => { code := reportCode config.scoring r, output, disk := d }
  | .error e => .failed d output e

def run? (here : Surroundings) (config : Config) (sources : List Location)
    (coverage json : Option Location) (d : Disk) : Except Failure Ending := do
  let sources ← loadSources d sources
  let coverage ← loadCoverage d coverage
  let registry ← (Registry.ofSettings config.mutators).mapError .config
  let scheduler ← (Scheduler.ofConfig here.tempDir here.machine config).mapError .config
  let adapter := commandAdapter config.adapter.command here.environment
  let out := scheduler.run adapter sources registry coverage false d
  match out.report with
  | .ok report => return finish config json report out.disk
  | .error e => return .interrupted out.disk e

def perform (here : Surroundings) (i : Invocation) (d : Disk) : Except Failure Ending := do
  let config ← (Config.load d here.home i.config).mapError .configFile
  config.validate.mapError .config
  match i.task with
  | .run sources coverage json => run? here config sources coverage json d
  | .init force => initialize? here i.config force d
  | .list sources coverage => list? config sources coverage d

def runProgram (here : Surroundings) (args : List String) (d : Disk) : Ending :=
  match Invocation.ofArguments args with
  | .error .version => { code := 0, output := textOfLines [versionText], disk := d }
  | .error (.help topic) => { code := 0, output := textOfLines (helpLines topic), disk := d }
  | .error (.wrong e) => { code := usageCode, complaint := some ("error: " ++ e.message), disk := d }
  | .ok invocation =>
    match perform here invocation d with
    | .ok ending => ending
    | .error e => .failed d "" e

end MutationTesting.CommandLine
