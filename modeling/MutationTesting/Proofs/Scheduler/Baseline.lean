import MutationTesting.Proofs.Except
import MutationTesting.Proofs.Execution.Verdict
import MutationTesting.Proofs.Scheduler.Driven

/-! The tests of the unmodified sources against the judgement of a mutant: when they let a run begin,
and what the same report would have said of a mutant. -/
namespace MutationTesting

/-- The report that an answer comes to. A runner that does not answer is stopped, and one that fails
gives no report. -/
def AdapterAnswer.report? : AdapterAnswer → Option AdapterReport
  | .report r => some r
  | .hangs => some .stopped
  | .panics _ => none

namespace ExecutionSettings

variable {s : ExecutionSettings} {answer : AdapterAnswer} {ms : Nat}

/-- The tests ran to their end and all passed, and yet the output has a sign of an error. -/
def PassedWithError (s : ExecutionSettings) : AdapterAnswer → Prop
  | .report r => (∃ code, r.exit = .exited code) ∧ s.FindsError r.details ∧ r.passed = true
  | .hangs | .panics _ => False

private theorem exists_escaped_iff :
    (∃ r, answer.report? = some r ∧ (s.classify r ms).kind = .escaped) ↔ s.Ran true answer := by
  simp only [classify_kind_iff]
  cases answer <;> simp [AdapterAnswer.report?, Says, Ran, AdapterReport.stopped]

private theorem Ran.not_passedWithError (h : s.Ran true answer) : ¬ s.PassedWithError answer := by
  cases answer with
  | report r => exact fun both => h.2.1 both.2.1
  | hangs => exact id
  | panics message => exact id

end ExecutionSettings

namespace Scheduler

open ExecutionSettings

variable {sched : Scheduler} {adapter : Adapter} {sources : List SourceFile} {d disk : Disk}
  {request : TestRequest} {s : ExecutionSettings} {answer : AdapterAnswer}

/-- Signs of an error in the output do not count before a run. -/
private theorem baselineAnswer_eq_ok :
    baselineAnswer s answer = .ok () ↔ s.Ran true answer ∨ s.PassedWithError answer := by
  cases answer with
  | report r =>
    rw [baselineAnswer, mapError_eq_ok, baselineVerdict, Ran, PassedWithError]
    cases r.exit with
    | exited code =>
      by_cases error : s.FindsError r.details <;> cases r.passed <;> simp [error]
    | _ => simp
  | hangs =>
    rw [baselineAnswer, mapError_eq_ok]
    simp [baselineVerdict, AdapterReport.stopped, Ran, PassedWithError]
  | panics message => simp [baselineAnswer, Ran, PassedWithError]

private theorem runBaseline_eq (prepared : sched.baselineRequest sources d = .ok (request, disk)) :
    sched.runBaseline adapter sources d =
      (baselineAnswer sched.settings (adapter request disk).answer, [⟨request, disk⟩],
        (adapter request disk).disk.removeAt request.workspace) := by
  rw [runBaseline, prepared]

/-- A run whose sources are rejected ends there: no mutant is looked at. -/
private theorem run_of_rejected {registry : Registry} {checked : Disk} {e : Interruption}
    (wanted : sched.baseline = true) (sound : sched.preflight sources registry d = .ok checked)
    (prepared : sched.baselineRequest sources checked = .ok (request, disk))
    (rejected : baselineAnswer sched.settings (adapter request disk).answer = .error e)
    (coverage : Option Coverage) (cancelled : Bool) :
    sched.run adapter sources registry coverage cancelled d =
      ⟨.error e, [⟨request, disk⟩], (adapter request disk).disk.removeAt request.workspace⟩ := by
  rw [run, sound]
  dsimp only
  rw [if_pos wanted, runBaseline_eq prepared]
  dsimp only
  rw [rejected]

/-- The unmodified sources are accepted exactly if the same report would let a mutant escape, unless
the tests pass with a sign of an error in the output. But for that, sources whose report would not
let a mutant escape are rejected before any mutant is tried. -/
theorem baseline_agrees_iff (prepared : sched.baselineRequest sources d = .ok (request, disk))
    (ms : Nat) :
    (((sched.runBaseline adapter sources d).1 = .ok () ↔
        ∃ r, (adapter request disk).answer.report? = some r ∧
          (sched.settings.classify r ms).kind = .escaped) ↔
      ¬ sched.settings.PassedWithError (adapter request disk).answer) ∧
    ((∀ r, (adapter request disk).answer.report? = some r →
        (sched.settings.classify r ms).kind ≠ .escaped) →
      ¬ sched.settings.PassedWithError (adapter request disk).answer →
      ∀ registry coverage cancelled before, sched.baseline = true →
        sched.preflight sources registry before = .ok d →
        ∃ e, sched.run adapter sources registry coverage cancelled before =
          ⟨.error e, [⟨request, disk⟩], (adapter request disk).disk.removeAt request.workspace⟩) := by
  rw [runBaseline_eq prepared]
  dsimp only
  rw [baselineAnswer_eq_ok, exists_escaped_iff]
  constructor
  · constructor
    · exact fun agree overlooked =>
        (agree.mp (.inr overlooked)).not_passedWithError overlooked
    · exact fun seen => ⟨fun accepted => accepted.resolve_right seen, .inl⟩
  · intro caught seen registry coverage cancelled before wanted sound
    cases verdict : baselineAnswer sched.settings (adapter request disk).answer with
    | ok _ =>
      rcases baselineAnswer_eq_ok.mp verdict with ran | overlooked
      · obtain ⟨r, reported, escaped⟩ := exists_escaped_iff.mpr ran
        exact absurd escaped (caught r reported)
      · exact absurd overlooked seen
    | error e => exact ⟨e, run_of_rejected wanted sound prepared verdict coverage cancelled⟩

namespace Sample

def answering (r : AdapterReport) : Adapter := fun _ d => { answer := .report r, disk := d }

def passing (output : String) : AdapterReport := { passed := true, details := output }

def failing : AdapterReport := { passed := false, details := "1 test failed" }

def careful : Scheduler := { Sample.sched with baseline := true }

end Sample

theorem sample_baseline_agrees :
    ∃ checked request d, Sample.careful.preflight [Sample.file] Sample.rules.registry {} =
        .ok checked ∧
      Sample.careful.baselineRequest [Sample.file] checked = .ok (request, d) ∧
      (Sample.careful.runBaseline (Sample.answering (Sample.passing "1 test")) [Sample.file]
        checked).1 = .ok () ∧
      ∃ e left, Sample.careful.run (Sample.answering Sample.failing) [Sample.file]
        Sample.rules.registry none false {} = ⟨.error e, [⟨request, d⟩], left⟩ := by
  have ready : ((Sample.careful.preflight [Sample.file] Sample.rules.registry {}).toOption.bind
      fun checked => (Sample.careful.baselineRequest [Sample.file] checked).toOption).isSome =
        true := by decide +kernel
  obtain ⟨⟨request, d⟩, found⟩ := Option.isSome_iff_exists.mp ready
  obtain ⟨checked, sound, prepared⟩ := Option.bind_eq_some_iff.mp found
  have sound := toOption_eq_some.mp sound
  have prepared := toOption_eq_some.mp prepared
  refine ⟨checked, request, d, sound, prepared, ?_, ?_⟩
  · have clear : ¬ Sample.settings.PassedWithError (.report (Sample.passing "1 test")) := by
      rintro ⟨-, error, -⟩
      exact absurd ((isError_iff _).mpr error) (by decide +kernel)
    obtain ⟨agree, -⟩ :=
      @baseline_agrees_iff _ (Sample.answering (Sample.passing "1 test")) _ _ _ _ prepared 0
    exact (agree.mpr clear).mpr ⟨_, rfl, by decide +kernel⟩
  · obtain ⟨-, rejects⟩ := @baseline_agrees_iff _ (Sample.answering Sample.failing) _ _ _ _ prepared 0
    have caught : ∀ r, (AdapterAnswer.report Sample.failing).report? = some r →
        (Sample.settings.classify r 0).kind ≠ .escaped := by
      intro r reported
      obtain rfl := Option.some.inj reported
      decide +kernel
    have seen : ¬ Sample.settings.PassedWithError (.report Sample.failing) :=
      fun both => Bool.false_ne_true both.2.2
    obtain ⟨e, ended⟩ := rejects caught seen _ none false _ rfl sound
    exact ⟨e, _, ended⟩

/-- Tests that pass with a sign of an error in the output let a run begin in which every mutant that
is tried has an error. -/
theorem baseline_accepts_error_output :
    ∃ request d, Sample.sched.baselineRequest [Sample.file] {} = .ok (request, d) ∧
      (Sample.sched.runBaseline (Sample.answering (Sample.passing "fatal: 1 test")) [Sample.file]
        {}).1 = .ok () ∧
      (Sample.answering (Sample.passing "fatal: 1 test") request d).answer.report? =
        some (Sample.passing "fatal: 1 test") ∧
      (Sample.settings.classify (Sample.passing "fatal: 1 test") 0).kind = .errored := by
  have ready : (Sample.sched.baselineRequest [Sample.file] {}).toOption.isSome = true := by
    decide +kernel
  obtain ⟨⟨request, d⟩, prepared⟩ := Option.isSome_iff_exists.mp ready
  have prepared := toOption_eq_some.mp prepared
  refine ⟨request, d, prepared, ?_, rfl, by decide +kernel⟩
  have overlooked :
      Sample.settings.PassedWithError (.report (Sample.passing "fatal: 1 test")) :=
    ⟨⟨0, rfl⟩, (isError_iff _).mp (by decide +kernel), rfl⟩
  rw [runBaseline_eq prepared]
  exact baselineAnswer_eq_ok.mpr (.inr overlooked)

end Scheduler
end MutationTesting
