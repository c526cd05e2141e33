import MutationTesting.Operator.Registry
import MutationTesting.Regex.Matcher
import MutationTesting.Text.Lines

/-! What a configuration must satisfy before a run starts. -/
namespace MutationTesting

namespace MutatorSettings

/-- Something is enabled, and every operator that is named exists. -/
def check (s : MutatorSettings) : Except ConfigError Unit :=
  if s.enabled.isEmpty then .error .noMutators
  else
    match (s.enabled ++ s.ignore.map Prod.fst).find? fun name =>
        !(OperatorName.all.map OperatorName.text).contains name with
    | some name => .error (.unknownMutator name)
    | none => .ok ()

end MutatorSettings

namespace RunSettings

def maxWorkers : Nat := 256

def check (s : RunSettings) : Except ConfigError Unit :=
  if maxWorkers < s.concurrency then .error (.tooManyWorkers maxWorkers s.concurrency)
  else if s.timeoutSeconds = 0 then .error .zeroTimeout
  else .ok ()

end RunSettings

namespace AdapterSettings

def check (s : AdapterSettings) : Except ConfigError Unit :=
  if Text.isAllBlank s.command then .error .emptyCommand
  else
    match Regex.ofText? s.failingTestPattern with
    | none => .error (.invalidPattern s.failingTestPattern)
    | some _ => .ok ()

end AdapterSettings

namespace ScoringSettings

def checkThreshold (name : String) : Option Binary64 → Except ConfigError Unit
  | none => .ok ()
  | some x =>
    if Binary64.zero.atMost x && x.atMost (Binary64.ofNat 100) then .ok ()
    else .error (.thresholdOutOfRange name x)

def check (s : ScoringSettings) : Except ConfigError Unit := do
  checkThreshold "min_msi" s.minMsi
  checkThreshold "min_covered_msi" s.minCoveredMsi

end ScoringSettings

namespace Config

/-- Checks the sections; the first problem counts. -/
def validate (c : Config) : Except ConfigError Unit := do
  c.mutators.check
  c.run.check
  c.adapter.check
  c.scoring.check

end Config
end MutationTesting
