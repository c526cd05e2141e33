import MutationTesting.Coverage
import MutationTesting.Mutant.Basic
import MutationTesting.Disk.Basic

/-! The boundary to the external test runner: what it is asked and what it answers. -/
namespace MutationTesting

inductive TestSelection where
  /-- The whole suite. -/
  | all
  | only (tests : List TestId)
deriving DecidableEq

/-- The covering tests of a mutant; the whole suite if none are known. -/
def TestSelection.forMutant (m : Mutant) : TestSelection :=
  if m.coveringTests.isEmpty then .all else .only m.coveringTests

structure TestRequest where
  selection : TestSelection
  /-- The changed source file, inside the workspace. -/
  artifact : Location
  workspace : Location
  timeoutMs : Nat
deriving DecidableEq

inductive ProcessExit where
  | exited (code : Int)
  /-- Ended without an exit code. -/
  | crashed (reason : String)
  | timedOut
  | launchFailed (reason : String)
deriving DecidableEq

structure AdapterReport where
  /-- Every selected test passed. -/
  passed : Bool
  /-- What the runner wrote. -/
  details : String := ""
  exit : ProcessExit := .exited 0
deriving DecidableEq

def AdapterReport.stopped : AdapterReport := { passed := false, exit := .timedOut }

inductive AdapterAnswer where
  | report (r : AdapterReport)
  /-- No answer before the time is over. -/
  | hangs
  /-- The adapter itself fails. -/
  | panics (message : String)
deriving DecidableEq

/-- An answer and what else the call did. -/
structure Reply where
  answer : AdapterAnswer
  /-- The disk the runner leaves behind. -/
  disk : Disk
  /-- The run is cancelled while the runner is at work. -/
  cancels : Bool := false

abbrev Adapter := TestRequest → Disk → Reply

/-- One request to the adapter, and the disk it found. -/
structure AdapterCall where
  request : TestRequest
  disk : Disk

end MutationTesting
