import MutationTesting.Shell.Interpreter
import MutationTesting.Shell.Template

/-! The adapter that runs a shell command for every request. -/
namespace MutationTesting

def signalText (signal : Nat) : String :=
  "signal: " ++ toString signal ++
    match Shell.signalNames.lookup signal with
    | some name => " (SIG" ++ name ++ ")"
    | none => ""

/-- The report on a command that is done: output first, then complaints on a line of their own. -/
def AdapterReport.ofSession (s : Shell.Session) : AdapterReport :=
  let details := Text.ofBytes (s.collected 0).bytes ++ "\n" ++ Text.ofBytes (s.collected 1).bytes
  match s.flow with
  | .killed signal => { passed := false, details, exit := .crashed (signalText signal) }
  | _ => { passed := s.status == 0, details, exit := .exited s.status }

def AdapterReport.unlaunched (reason : String) : AdapterReport :=
  { passed := false, exit := .launchFailed reason }

def commandFolder (d : Disk) (workspace : Location) : Except DiskFailure Place := do
  let p ← d.resolve workspace
  d.requireFolder p
  return p

/-- Runs a command from a template in the workspace, with some variables beside its own. A command
that is not done in time is stopped, and so is all that it has begun. -/
def commandAdapter (template : String) (inherited : List (String × String)) : Adapter :=
    fun request d =>
  let line := Shell.render template request
  let environment := Shell.environment request ++ inherited
  let report (r : AdapterReport) (disk : Disk) : Reply := { answer := .report r, disk }
  if (line :: environment.map Prod.snd).any fun text => text.contains '\x00' then
    report (.unlaunched "nul byte found in provided data") d
  else
    match commandFolder d request.workspace with
    | .error e => report (.unlaunched e.message) d
    | .ok folder =>
      let s := Shell.runLine line environment { d with current := folder }
      if s.flow == .stuck || request.timeoutMs ≤ s.endTime then report .stopped d
      else report (.ofSession s) { s.disk with current := d.current }

end MutationTesting
