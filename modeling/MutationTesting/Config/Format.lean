import MutationTesting.Config.Settings
import MutationTesting.Tree.Format

/-! Configurations as documents: every section and every setting may be left out. -/
namespace MutationTesting

open Json (withDefault optional record? asString? asBool? asNat? asList? asReal?)

namespace BindingRemoval

def word : BindingRemoval → String
  | first => "first"
  | all => "all"

def ofWord? (w : String) : Option BindingRemoval :=
  if w = "first" then some first else if w = "all" then some all else none

def ofJson? : Json → Option BindingRemoval := Json.asWord? ofWord?

end BindingRemoval

namespace GeneralSettings

def ofJson? (j : Json) : Option GeneralSettings := do
  match ← record? ["log_level"] j with
  | [logLevel] => some { logLevel := ← withDefault "info" asString? logLevel }
  | _ => none

def toJson (s : GeneralSettings) : Json := .obj [("log_level", .str s.logLevel)]

end GeneralSettings

namespace RunSettings

def ofJson? (j : Json) : Option RunSettings := do
  let slots ← record? ["concurrency", "timeout_seconds", "lookahead", "only_covered", "baseline",
    "tmp_dir", "project_root", "max_output_bytes"] j
  let d : RunSettings := {}
  match slots with
  | [concurrency, timeout, lookahead, onlyCovered, baseline, tmpDir, projectRoot, maxOutput] =>
    some {
      concurrency := ← withDefault d.concurrency asNat? concurrency
      timeoutSeconds := ← withDefault d.timeoutSeconds asNat? timeout
      lookahead := ← withDefault d.lookahead asNat? lookahead
      onlyCovered := ← withDefault d.onlyCovered asBool? onlyCovered
      baseline := ← withDefault d.baseline asBool? baseline
      tmpDir := ← optional asString? tmpDir
      projectRoot := ← optional asString? projectRoot
      maxOutputBytes := ← withDefault d.maxOutputBytes asNat? maxOutput }
  | _ => none

def toJson (s : RunSettings) : Json :=
  .obj [("concurrency", .ofNat s.concurrency), ("timeout_seconds", .ofNat s.timeoutSeconds),
    ("lookahead", .ofNat s.lookahead), ("only_covered", .bool s.onlyCovered),
    ("baseline", .bool s.baseline), ("tmp_dir", Json.ofOption .str s.tmpDir),
    ("project_root", Json.ofOption .str s.projectRoot),
    ("max_output_bytes", .ofNat s.maxOutputBytes)]

end RunSettings

private def stringsToJson (l : List String) : Json := .arr (l.map .str)

private def stringsOfJson? : Json → Option (List String) := asList? asString?

namespace AdapterSettings

def ofJson? (j : Json) : Option AdapterSettings := do
  let d : AdapterSettings := {}
  match ← record? ["command", "error_patterns", "failing_test_pattern"] j with
  | [command, errorPatterns, failingTestPattern] =>
    some {
      command := ← withDefault d.command asString? command
      errorPatterns := ← withDefault d.errorPatterns stringsOfJson? errorPatterns
      failingTestPattern := ← withDefault d.failingTestPattern asString? failingTestPattern }
  | _ => none

def toJson (s : AdapterSettings) : Json :=
  .obj [("command", .str s.command), ("error_patterns", stringsToJson s.errorPatterns),
    ("failing_test_pattern", .str s.failingTestPattern)]

end AdapterSettings

namespace ChainSettings

def ofJson? (j : Json) : Option ChainSettings := do
  let d : ChainSettings := {}
  match ← record? ["methods", "filter_methods", "binder_methods", "scope", "bindings"] j with
  | [methods, filterMethods, binderMethods, scope, bindings] =>
    some {
      methods := ← withDefault d.methods stringsOfJson? methods
      filterMethods := ← withDefault d.filterMethods stringsOfJson? filterMethods
      binderMethods := ← withDefault d.binderMethods stringsOfJson? binderMethods
      scope := ← withDefault d.scope stringsOfJson? scope
      bindings := ← withDefault d.bindings BindingRemoval.ofJson? bindings }
  | _ => none

def toJson (s : ChainSettings) : Json :=
  .obj [("methods", stringsToJson s.methods), ("filter_methods", stringsToJson s.filterMethods),
    ("binder_methods", stringsToJson s.binderMethods), ("scope", stringsToJson s.scope),
    ("bindings", .str s.bindings.word)]

end ChainSettings

namespace MutatorSettings

/-- Patterns by operator; of an operator named twice the later patterns count. -/
def ignoreOfJson? : Json → Option (List (String × List String))
  | .obj fields =>
    (fields.mapM fun f => (stringsOfJson? f.2).map fun ps => (f.1, ps)).map Ordered.tableOfList
  | _ => none

def ofJson? (j : Json) : Option MutatorSettings := do
  let d : MutatorSettings := {}
  match ← record? ["enabled", "chain", "ignore"] j with
  | [enabled, chain, ignore] =>
    some {
      enabled := ← withDefault d.enabled stringsOfJson? enabled
      chain := ← withDefault d.chain ChainSettings.ofJson? chain
      ignore := ← withDefault d.ignore ignoreOfJson? ignore }
  | _ => none

def toJson (s : MutatorSettings) : Json :=
  .obj [("enabled", stringsToJson s.enabled), ("chain", s.chain.toJson),
    ("ignore", .obj (s.ignore.map fun e => (e.1, stringsToJson e.2)))]

end MutatorSettings

namespace ScoringSettings

def ofJson? (j : Json) : Option ScoringSettings := do
  let slots ← record? ["timed_out_detected", "errored_detected", "include_not_covered", "min_msi",
    "min_covered_msi", "ignore_msi_with_no_mutations"] j
  let d : ScoringSettings := {}
  match slots with
  | [timedOut, errored, notCovered, minMsi, minCoveredMsi, ignoreEmpty] =>
    some {
      timedOutDetected := ← withDefault d.timedOutDetected asBool? timedOut
      erroredDetected := ← withDefault d.erroredDetected asBool? errored
      includeNotCovered := ← withDefault d.includeNotCovered asBool? notCovered
      minMsi := ← optional asReal? minMsi
      minCoveredMsi := ← optional asReal? minCoveredMsi
      ignoreMsiWithNoMutations := ← withDefault d.ignoreMsiWithNoMutations asBool? ignoreEmpty }
  | _ => none

def toJson (s : ScoringSettings) : Json :=
  .obj [("timed_out_detected", .bool s.timedOutDetected),
    ("errored_detected", .bool s.erroredDetected),
    ("include_not_covered", .bool s.includeNotCovered),
    ("min_msi", Json.ofOption .real s.minMsi),
    ("min_covered_msi", Json.ofOption .real s.minCoveredMsi),
    ("ignore_msi_with_no_mutations", .bool s.ignoreMsiWithNoMutations)]

end ScoringSettings

def PrintStyle.toJson (s : PrintStyle) : Json :=
  .obj [("member_access", .str s.memberAccess), ("static_access", .str s.staticAccess),
    ("indent", .str s.indent)]

namespace Config

def ofJson? (j : Json) : Option Config := do
  match ← record? ["general", "run", "adapter", "mutators", "scoring", "printer"] j with
  | [general, run, adapter, mutators, scoring, printer] =>
    some {
      general := ← withDefault {} GeneralSettings.ofJson? general
      run := ← withDefault {} RunSettings.ofJson? run
      adapter := ← withDefault {} AdapterSettings.ofJson? adapter
      mutators := ← withDefault {} MutatorSettings.ofJson? mutators
      scoring := ← withDefault {} ScoringSettings.ofJson? scoring
      printer := ← withDefault {} PrintStyle.ofJson? printer }
  | _ => none

def toJson (c : Config) : Json :=
  .obj [("general", c.general.toJson), ("run", c.run.toJson), ("adapter", c.adapter.toJson),
    ("mutators", c.mutators.toJson), ("scoring", c.scoring.toJson),
    ("printer", c.printer.toJson)]

end Config
end MutationTesting
