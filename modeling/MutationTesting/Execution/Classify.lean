import MutationTesting.Execution.Adapter
import MutationTesting.Outcome.Basic
import MutationTesting.Config.Settings
import MutationTesting.Regex.Matcher
import MutationTesting.Text.Bytes
import MutationTesting.Text.Lines

/-! From the report of the test runner to the outcome of a mutant. -/
namespace MutationTesting

/-- What a worker needs beside the mutant. -/
structure ExecutionSettings where
  timeoutSeconds : Nat
  maxOutputBytes : Nat
  /-- Pieces of output that mean a mutant could not run at all. -/
  errorPatterns : List String
  /-- The first group names a failing test. -/
  failingTest : Regex.Pattern
  printer : PrintStyle
  /-- Where workspaces are made. -/
  workspaceRoot : Location
  /-- Directory copied into every workspace. -/
  projectRoot : Option Location

namespace ExecutionSettings

/-- The settings of a configuration; `tempDir` is used where it names no place for workspaces. -/
def ofConfig (tempDir : Location) (c : Config) : Except ConfigError ExecutionSettings :=
  match Regex.ofText? c.adapter.failingTestPattern with
  | none => .error (.invalidPattern c.adapter.failingTestPattern)
  | some failingTest =>
    .ok {
      timeoutSeconds := c.run.timeoutSeconds
      maxOutputBytes := c.run.maxOutputBytes
      errorPatterns := c.adapter.errorPatterns
      failingTest
      printer := c.printer
      workspaceRoot := c.run.tmpDir.getD tempDir
      projectRoot := c.run.projectRoot }

end ExecutionSettings

/-- The text of the pattern's first group in the first line where it takes part in a match. Blanks
at the end of a line do not count. -/
def failingTest? (pattern : Regex.Pattern) (output : String) : Option String :=
  (Text.lines output.toList).findSome? fun line =>
    (Regex.group? pattern 1 (Text.trimEnd line)).map fun cs => String.ofList cs

namespace ExecutionSettings

def isError (s : ExecutionSettings) (output : String) : Bool :=
  s.errorPatterns.any fun p => Text.contains output p

def classify (s : ExecutionSettings) (report : AdapterReport) (durationMs : Nat) : Outcome :=
  let details := Text.truncate report.details s.maxOutputBytes
  match report.exit with
  | .timedOut => { kind := .timedOut, durationMs }
  | .launchFailed reason =>
    { kind := .errored, durationMs
      diagnostic := some ("failed to launch test runner: " ++ reason) }
  | .crashed reason =>
    { kind := .errored, durationMs
      diagnostic := some ("test runner crashed (" ++ reason ++ ")\n" ++ details) }
  | .exited _ =>
    if s.isError report.details then { kind := .errored, durationMs, diagnostic := some details }
    else if report.passed then { kind := .escaped, durationMs }
    else
      { kind := .killed, durationMs
        killingTest := failingTest? s.failingTest report.details
        diagnostic := some details }

end ExecutionSettings
end MutationTesting
