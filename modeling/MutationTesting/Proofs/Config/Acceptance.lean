import MutationTesting.Scheduler.Preflight
import MutationTesting.Proofs.Operator.Registry

/-! What passes the checks of a configuration, and what can be made of a configuration that does.

The operators of a run are looked up without regard to the checks, and fail on their own terms. They
fail exactly where the checks find fault with the operators, and with the same fault. -/
namespace MutationTesting

variable {e : ConfigError} {c : Config}

/-- The fault lies with the operators that a configuration enables or names. -/
def ConfigError.AboutOperators : ConfigError → Prop
  | .noMutators | .unknownMutator _ => True
  | _ => False

private theorem ConfigError.aboutOperators_iff :
    e.AboutOperators ↔ e = .noMutators ∨ ∃ name, e = .unknownMutator name := by
  cases e <;> simp [AboutOperators]

namespace MutatorSettings

variable {s : MutatorSettings}

/-- Of the names that are enabled or have patterns, both report the first unknown one. -/
private theorem ofSettings_eq_check : Registry.ofSettings s = s.check.map fun _ =>
    { operators := Registry.operatorsNamed s.chain s.enabled, ignore := s.ignore } := by
  rw [Registry.ofSettings_eq, check, ← Registry.unknownName?]
  split
  · rfl
  · cases Registry.unknownName? (s.enabled ++ s.ignore.map Prod.fst) with
    | some name => rfl
    | none => rfl

private theorem ofSettings_eq_error : Registry.ofSettings s = .error e ↔ s.check = .error e := by
  rw [ofSettings_eq_check]
  cases s.check with
  | error e' => rw [Except.map, Except.error.injEq, Except.error.injEq]
  | ok u => exact ⟨fun h => (nomatch h), fun h => (nomatch h)⟩

private theorem exists_ofSettings (passed : s.check = .ok ()) :
    ∃ r, Registry.ofSettings s = .ok r := by
  rw [ofSettings_eq_check, passed]
  exact ⟨_, rfl⟩

private theorem aboutOperators_of_check (failed : s.check = .error e) : e.AboutOperators := by
  rw [check] at failed
  split at failed
  · obtain rfl := Except.error.inj failed
    trivial
  · split at failed
    · obtain rfl := Except.error.inj failed
      trivial
    · cases failed

end MutatorSettings

private theorem RunSettings.not_aboutOperators_of_check {s : RunSettings}
    (failed : s.check = .error e) : ¬ e.AboutOperators := by
  rw [check] at failed
  split at failed
  · obtain rfl := Except.error.inj failed
    exact id
  · split at failed
    · obtain rfl := Except.error.inj failed
      exact id
    · cases failed

private theorem AdapterSettings.not_aboutOperators_of_check {s : AdapterSettings}
    (failed : s.check = .error e) : ¬ e.AboutOperators := by
  rw [check] at failed
  split at failed
  · obtain rfl := Except.error.inj failed
    exact id
  · split at failed
    · obtain rfl := Except.error.inj failed
      exact id
    · cases failed

namespace ScoringSettings

private theorem not_aboutOperators_of_checkThreshold {name : String} {value : Option Binary64}
    (failed : checkThreshold name value = .error e) : ¬ e.AboutOperators := by
  cases value with
  | none => cases failed
  | some x =>
    rw [checkThreshold] at failed
    split at failed
    · cases failed
    · obtain rfl := Except.error.inj failed
      exact id

private theorem not_aboutOperators_of_check {s : ScoringSettings} (failed : s.check = .error e) :
    ¬ e.AboutOperators := by
  rcases bind_eq_error.mp failed with first | ⟨_, -, second⟩
  · exact not_aboutOperators_of_checkThreshold first
  · exact not_aboutOperators_of_checkThreshold second

end ScoringSettings

namespace Config

private theorem validate_eq_ok : c.validate = .ok () ↔ c.mutators.check = .ok () ∧
    c.run.check = .ok () ∧ c.adapter.check = .ok () ∧ c.scoring.check = .ok () := by
  simp only [validate, bind_eq_ok, Unique.exists_iff]

/-- The other sections are not at fault for the operators, and are looked at later. -/
private theorem validate_eq_error_of_aboutOperators (about : e.AboutOperators) :
    c.validate = .error e ↔ c.mutators.check = .error e := by
  refine bind_eq_error.trans (or_iff_left ?_)
  rintro ⟨_, -, later⟩
  rcases bind_eq_error.mp later with run | ⟨_, -, later⟩
  · exact RunSettings.not_aboutOperators_of_check run about
  · rcases bind_eq_error.mp later with adapter | ⟨_, -, scoring⟩
    · exact AdapterSettings.not_aboutOperators_of_check adapter about
    · exact ScoringSettings.not_aboutOperators_of_check scoring about

end Config

namespace AdapterSettings

private theorem exists_pattern_of_check {s : AdapterSettings} (passed : s.check = .ok ()) :
    ∃ pattern, Regex.ofText? s.failingTestPattern = some pattern := by
  rw [check] at passed
  split at passed
  · cases passed
  · split at passed
    · cases passed
    · next pattern compiled => exact ⟨pattern, compiled⟩

end AdapterSettings

private theorem ExecutionSettings.exists_ofConfig (passed : c.validate = .ok ())
    (tempDir : Location) : ∃ settings, ExecutionSettings.ofConfig tempDir c = .ok settings := by
  obtain ⟨-, -, adapter, -⟩ := Config.validate_eq_ok.mp passed
  obtain ⟨pattern, compiled⟩ := AdapterSettings.exists_pattern_of_check adapter
  rw [ofConfig, compiled]
  exact ⟨_, rfl⟩

namespace Scheduler

private theorem exists_ofConfig (passed : c.validate = .ok ()) (tempDir : Location)
    (machine : Nat) : ∃ s, ofConfig tempDir machine c = .ok s := by
  obtain ⟨settings, made⟩ := ExecutionSettings.exists_ofConfig passed tempDir
  rw [ofConfig, passed, ok_bind, made]
  exact ⟨_, rfl⟩

/-- Before a run starts, only a registry without operators is held against the configuration. -/
private theorem preflight_ne_error_config {r : Registry} (some_ : r.operators ≠ []) (s : Scheduler)
    (sources : List SourceFile) (d : Disk) : s.preflight sources r d ≠ .error (.config e) := by
  have unwritable : (d.makeFolders s.settings.workspaceRoot).mapError
      (EngineError.workspaceUnwritable s.settings.workspaceRoot) ≠ .error (.config e) :=
    mapError_ne_error fun _ => nofun
  rw [preflight, if_neg (by simpa using some_)]
  cases sources.isEmpty with
  | true => nofun
  | false =>
    cases sources.find? SourceFile.isEmpty with
    | some empty => nofun
    | none =>
      cases s.settings.projectRoot with
      | none => exact unwritable
      | some project =>
        show (if !d.isFolder project then _ else _) ≠ _
        cases d.isFolder project with
        | false => nofun
        | true => exact unwritable

end Scheduler

namespace Config

/-- Looking up the operators of a configuration fails exactly if the checks find fault with its
operators, and with the same fault. After the checks have passed there are operators, in the order
of their names, and their names are those that are enabled. Nothing made of the configuration fails
then: neither the settings of a trial nor the scheduler, and before a run no fault is found with the
configuration. -/
theorem checks_settle_construction :
    (∀ (c : Config) e, Registry.ofSettings c.mutators = .error e ↔
      c.validate = .error e ∧ (e = .noMutators ∨ ∃ name, e = .unknownMutator name)) ∧
    ∀ c : Config, c.validate = .ok () →
      ∃ r, Registry.ofSettings c.mutators = .ok r ∧ r.operators ≠ [] ∧
        r.names.Pairwise (· < ·) ∧ (∀ name, name ∈ r.names ↔ name ∈ c.mutators.enabled) ∧
        ∀ tempDir, (∃ settings, ExecutionSettings.ofConfig tempDir c = .ok settings) ∧
          ∀ machine, ∃ s, Scheduler.ofConfig tempDir machine c = .ok s ∧
            ∀ sources d e, s.preflight sources r d ≠ .error (.config e) := by
  refine ⟨fun c e => ?_, fun c passed => ?_⟩
  · rw [MutatorSettings.ofSettings_eq_error, ← ConfigError.aboutOperators_iff]
    constructor
    · intro failed
      have about := MutatorSettings.aboutOperators_of_check failed
      exact ⟨(validate_eq_error_of_aboutOperators about).mpr failed, about⟩
    · rintro ⟨failed, about⟩
      exact (validate_eq_error_of_aboutOperators about).mp failed
  · obtain ⟨r, accepted⟩ := MutatorSettings.exists_ofSettings (validate_eq_ok.mp passed).1
    have names := Registry.names_of_ofSettings accepted
    have enabled := (Registry.ofSettings_eq_ok.mp accepted).1
    have some_ : r.operators ≠ [] := by
      obtain ⟨name, rest, listed⟩ := List.exists_cons_of_ne_nil enabled
      have member : name ∈ r.names := by
        rw [names, Ordered.mem_ofList, listed]
        exact .head rest
      obtain ⟨o, made, -⟩ := List.mem_map.mp member
      exact List.ne_nil_of_mem made
    refine ⟨r, accepted, some_, ?_, fun name => ?_, fun tempDir => ?_⟩
    · rw [names]
      exact Ordered.pairwise_ofList _
    · rw [names, Ordered.mem_ofList]
    · refine ⟨ExecutionSettings.exists_ofConfig passed tempDir, fun machine => ?_⟩
      obtain ⟨s, made⟩ := Scheduler.exists_ofConfig passed tempDir machine
      exact ⟨s, made, fun sources d e => Scheduler.preflight_ne_error_config some_ s sources d⟩

def Sample.misspelt : Config where
  mutators := { enabled := ["Plus", "Power", "Plus"], ignore := [("And", [])] }
  run := { timeoutSeconds := 0 }

/-- Without any settings there is a scheduler that a run may start with. Of several faults the first
unknown operator is reported. -/
theorem sample_checks_settle_construction :
    (Config.validate {} = .ok () ∧
      ∃ r s, Registry.ofSettings {} = .ok r ∧ "Plus" ∈ r.names ∧
        Scheduler.ofConfig "/tmp" 4 {} = .ok s ∧
        ∀ sources d e, s.preflight sources r d ≠ .error (.config e)) ∧
    Sample.misspelt.validate = .error (.unknownMutator "Power") ∧
      Registry.ofSettings Sample.misspelt.mutators = .error (.unknownMutator "Power") := by
  obtain ⟨agree, settle⟩ := checks_settle_construction
  have passed : Config.validate {} = .ok () := by decide +kernel
  have failed : Sample.misspelt.validate = .error (.unknownMutator "Power") := by decide +kernel
  obtain ⟨r, accepted, -, -, names, rest⟩ := settle {} passed
  obtain ⟨s, made, ready⟩ := (rest "/tmp").2 4
  refine ⟨⟨passed, r, s, accepted, (names "Plus").mpr (.head _), made, ready⟩, failed, ?_⟩
  exact (agree Sample.misspelt _).mpr ⟨failed, .inr ⟨"Power", rfl⟩⟩

end Config
end MutationTesting
