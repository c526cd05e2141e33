import MutationTesting.Config.Validation
import MutationTesting.Execution.Classify
import MutationTesting.Outcome.Score

/-! What a run is made with, and what can stop it before there is a report. -/
namespace MutationTesting

inductive EngineError where
  | config (cause : ConfigError)
  | noSources
  | emptyTree (file : Location)
  | workspaceUnwritable (root : Location) (cause : DiskFailure)
  | projectRootMissing (project : Location)
  /-- The tests do not pass on the unmodified sources. -/
  | baselineFailed (reason : String)
  | worker (reason : String)
deriving DecidableEq

def EngineError.message : EngineError → String
  | config cause => cause.message
  | noSources => "no source files to mutate"
  | emptyTree file => "syntax tree of " ++ file ++ " is empty"
  | workspaceUnwritable root cause =>
    "workspace root " ++ root ++ " is not writable: " ++ cause.message
  | projectRootMissing project => "project root " ++ project ++ " does not exist"
  | baselineFailed reason => "test suite fails without any mutation: " ++ reason
  | worker reason => "worker task failed: " ++ reason

inductive Interruption where
  | error (cause : EngineError)
  /-- The adapter fails on the unmodified sources. Nothing catches that. -/
  | panic (message : String)
  /-- Some worker or the dispatcher could still move. -/
  | unfinished
deriving DecidableEq

structure Scheduler where
  settings : ExecutionSettings
  /-- Mutants tried at the same time. -/
  workers : Nat
  /-- Mutants that may wait for a worker. -/
  lookahead : Nat
  onlyCovered : Bool
  /-- Try the unmodified sources first. -/
  baseline : Bool
  policy : ScoringPolicy

namespace RunSettings

/-- The number of workers: as configured, or else as many as the machine runs well, but one at
least. -/
def workerCount (s : RunSettings) (machine : Nat) : Nat :=
  if s.concurrency = 0 then max machine 1 else s.concurrency

end RunSettings

namespace Scheduler

def ofConfig (tempDir : Location) (machine : Nat) (c : Config) : Except ConfigError Scheduler := do
  c.validate
  let settings ← ExecutionSettings.ofConfig tempDir c
  return {
    settings
    workers := c.run.workerCount machine
    lookahead := max c.run.lookahead 1
    onlyCovered := c.run.onlyCovered
    baseline := c.run.baseline
    policy := c.scoring.policy }

end Scheduler
end MutationTesting
