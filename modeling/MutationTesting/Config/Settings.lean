import MutationTesting.Operator.Name
import MutationTesting.Tree.Printer
import MutationTesting.Disk.Location
import MutationTesting.Ordered

/-! Settings of a run, in sections, with their defaults. -/
namespace MutationTesting

/-- Which of several binders of the same placeholder go when the placeholder goes. -/
inductive BindingRemoval where
  /-- Only the outermost one. -/
  | first
  | all
deriving DecidableEq, Inhabited

structure GeneralSettings where
  logLevel : String := "info"
deriving DecidableEq, Inhabited

structure RunSettings where
  /-- Mutants tested at the same time; zero leaves the number to the machine. -/
  concurrency : Nat := 0
  timeoutSeconds : Nat := 10
  /-- Mutants generated ahead of the workers. -/
  lookahead : Nat := 16
  /-- Leave out mutants that no test covers. -/
  onlyCovered : Bool := false
  /-- Try the unmodified sources first. -/
  baseline : Bool := true
  /-- Where workspaces are made; the system's place for such things if unset. -/
  tmpDir : Option Location := none
  /-- Directory copied into every workspace. -/
  projectRoot : Option Location := none
  maxOutputBytes : Nat := 10000
deriving DecidableEq, Inhabited

structure AdapterSettings where
  command : String := "vendor/bin/phpunit \x7btests\x7d"
  /-- Pieces of output that mean a mutant could not run at all. -/
  errorPatterns : List String := []
  /-- Pattern whose first group names a failing test. -/
  failingTestPattern : String := "^\\d+\\) (\\S+)"
deriving DecidableEq, Inhabited

structure ChainSettings where
  /-- Calls that may be removed. -/
  methods : List String := ["andWhere", "where", "orWhere", "orderBy", "setMaxResults"]
  /-- Calls whose first string argument may introduce placeholders. -/
  filterMethods : List String := ["where", "andWhere", "orWhere"]
  /-- Calls that bind a placeholder by name. -/
  binderMethods : List String := ["setParameter"]
  /-- Pieces of names of the enclosing class; none of them means everywhere. -/
  scope : List String := ["Test", "Repository"]
  bindings : BindingRemoval := .first
deriving DecidableEq, Inhabited

structure MutatorSettings where
  enabled : List String := OperatorName.all.map OperatorName.text
  chain : ChainSettings := {}
  /-- For an operator, patterns of scopes where it must not run; a table ordered by operator. -/
  ignore : List (String × List String) := []
deriving DecidableEq, Inhabited

structure ScoringSettings where
  timedOutDetected : Bool := true
  erroredDetected : Bool := false
  /-- Keep uncovered mutants in the denominator of the score. -/
  includeNotCovered : Bool := false
  /-- Least score, in percent. -/
  minMsi : Option Binary64 := none
  /-- Least score among covered mutants, in percent. -/
  minCoveredMsi : Option Binary64 := none
  ignoreMsiWithNoMutations : Bool := false
deriving DecidableEq, Inhabited

structure Config where
  general : GeneralSettings := {}
  run : RunSettings := {}
  adapter : AdapterSettings := {}
  mutators : MutatorSettings := {}
  scoring : ScoringSettings := {}
  printer : PrintStyle := {}
deriving DecidableEq, Inhabited

inductive ConfigError where
  | noMutators
  | unknownMutator (name : String)
  | tooManyWorkers (max got : Nat)
  | zeroTimeout
  | emptyCommand
  | invalidPattern (pattern : String)
  | thresholdOutOfRange (name : String) (value : Binary64)
deriving DecidableEq

/-- The message; what is wrong with a pattern is not told. -/
def ConfigError.message : ConfigError → String
  | noMutators => "no mutators are enabled"
  | unknownMutator name => "unknown mutator '" ++ name ++ "'"
  | tooManyWorkers max got =>
    "run.concurrency must not exceed " ++ toString max ++ ", got " ++ toString got
  | zeroTimeout => "run.timeout_seconds must be greater than zero"
  | emptyCommand => "adapter.command is empty"
  | invalidPattern pattern => "invalid pattern '" ++ pattern ++ "'"
  | thresholdOutOfRange name value =>
    "scoring." ++ name ++ " must be between 0 and 100, got " ++ value.plainText 0

end MutationTesting
