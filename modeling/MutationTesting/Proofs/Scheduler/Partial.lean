import MutationTesting.Proofs.Scheduler.Completeness
import MutationTesting.Proofs.Scheduler.Conduct
import MutationTesting.Proofs.Scheduler.Since

/-! What the mark of a partial report says. It is set when the run was cancelled before every mutant
was done with: also when the mutants that were at work then came to their ordinary end. -/
namespace MutationTesting.Scheduler

instance (f : Fate) : Decidable (f = .passedOver) :=
  match f with
  | .passedOver => .isTrue rfl
  | .uncovered => .isFalse nofun
  | .ignored => .isFalse nofun
  | .unprepared _ => .isFalse nofun
  | .tried _ _ => .isFalse nofun

structure Complete (stream : List Offer) (h : History) : Prop where
  jobs : (h.settled.map Settled.job).Perm (stream.filterMap Offer.subject?)
  notPassedOver : ∀ x ∈ h.settled, x.fate ≠ .passedOver

variable {sched : Scheduler} {workers : Nat} {stream : List Offer} {d : Disk} {s t : State}
  {a : Action} {r : Report}

theorem Complete.cancelled {h : History} (all : Complete stream h) :
    Complete stream (h ++ [.cancelled]) := by
  have same : History.settled (h ++ [.cancelled]) = h.settled := by simp [History.settled]
  exact ⟨same ▸ all.jobs, same ▸ all.notPassedOver⟩

/-- A run that comes to its report without a cancellation is complete. -/
theorem Reachable.complete (some_worker : 0 < workers)
    (run : Reachable sched (.initial workers stream d) s) (made : s.report = some r)
    (goesOn : .cancelled ∉ s.history) : Complete stream s.history := by
  have done := run.finished some_worker made
  refine ⟨done.complete goesOn ▸ done.jobs, ?_⟩
  intro x member passed
  rw [History.settled, List.mem_append] at member
  rcases member with aside | worked
  · obtain ⟨o, -, aside⟩ := List.mem_filterMap.mp aside
    rcases fate_of_aside aside with fate | fate
    · cases fate.symm.trans passed
    · cases fate.symm.trans passed
  · have warranted := run.conducted.worked x worked
    rw [Warranted, passed] at warranted
    exact goesOn warranted

/-- A report that is not partial has everything. -/
private theorem Reachable.isPartial_or_complete (some_worker : 0 < workers)
    (run : Reachable sched (.initial workers stream d) s) :
    ∀ r, s.report = some r → r.isPartial = true ∨ Complete stream s.history := by
  induction run with
  | start => simp [State.initial]
  | @step s t a before step ih =>
    intro r made
    have m := move_of_step? step
    rcases m.report with kept | ⟨closed, done, same⟩
    · have earlier := kept.symm.trans made
      have concluded := before.controlled.concluded r earlier
      obtain rfl := concluded.move earlier (before.controlled.closed concluded.closed).1 m
      exact (ih r earlier).imp_right Complete.cancelled
    · cases flag : s.isCancelled with
      | true =>
        subst same
        obtain rfl := Option.some.inj made
        exact .inl flag
      | false =>
        have goesOn : .cancelled ∉ t.history := same ▸ before.controlled.uncancelled flag
        exact .inr ((Reachable.step a before step).complete some_worker made goesOn)

/-- A cancellation before everything is done with makes the report partial. -/
private theorem Reachable.isPartial_of_cancelled (some_worker : 0 < workers)
    (run : Reachable sched (.initial workers stream d) s) (made : s.report = some r)
    {before rest : History} (split : s.history = before ++ .cancelled :: rest) :
    r.isPartial = true ∨ Complete stream before := by
  refine Reachable.since .cancelled
    (fun before s _ => ∀ r, s.report = some r → r.isPartial = true ∨ Complete stream before)
    run rfl ?_ ?_ before rest split r made
  · intro s t a reached m next r made
    rcases m.report with kept | ⟨_, _, rfl⟩
    · exact reached.isPartial_or_complete some_worker r (kept.symm.trans made)
    · simp at next
  · intro s t a before rest reached m split ih more _ r made
    rcases m.report with kept | ⟨_, _, rfl⟩
    · exact ih r (kept.symm.trans made)
    · obtain rfl := Option.some.inj made
      exact .inl (reached.controlled.cancelled.mpr (by simp [split]))

/-- The report of a run is marked as partial if some mutant of the stream has no result in it or was
passed over, and also if the run was cancelled while some mutant was not done with, whatever became
of that mutant afterwards. Without a cancellation the report is not partial and every mutant has
its ordinary result. -/
theorem partial_report_was_cancelled (some_worker : 0 < workers)
    (run : Reachable sched (.initial workers stream d) s) (made : s.report = some r) :
    r.results.Perm (s.history.settled.map (Settled.result sched.settings)) ∧
    (¬ Complete stream s.history → r.isPartial = true) ∧
    (∀ before rest, s.history = before ++ .cancelled :: rest → ¬ Complete stream before →
      r.isPartial = true) ∧
    (r.isPartial = true → .cancelled ∈ s.history) ∧
    (.cancelled ∉ s.history → r.isPartial = false ∧ Complete stream s.history) := by
  have flagged : r.isPartial = true → .cancelled ∈ s.history := by
    intro marked
    obtain ⟨-, -, flag, rfl, earlier⟩ := run.controlled.concluded r made
    exact run.controlled.cancelled.mp (earlier marked)
  refine ⟨run.reported made, ?_, ?_, flagged, ?_⟩
  · exact fun left => (run.isPartial_or_complete some_worker r made).resolve_right left
  · intro before rest split left
    exact (run.isPartial_of_cancelled some_worker made split).resolve_right left
  · intro goesOn
    exact ⟨by simpa using mt flagged goesOn, run.complete some_worker made goesOn⟩

theorem sample_partial_report_was_cancelled :
    0 < 1 ∧
    Reachable Sample.sched (.initial 1 (offers Sample.rules [Sample.file]) {})
      (Sample.lastCancelled "$a - 2") ∧
    ∃ r, (Sample.lastCancelled "$a - 2").report = some r ∧ r.isPartial = true := by
  have some_worker : 0 < 1 := by decide
  have run := Sample.reachable_lastCancelled "$a - 2"
  obtain ⟨ended, x, member, fate⟩ :
      (Sample.lastCancelled "$a - 2").report.isSome = true ∧
      ∃ x ∈ (Sample.lastCancelled "$a - 2").history.settled, x.fate = .passedOver := by
    decide +kernel
  obtain ⟨r, made⟩ := Option.isSome_iff_exists.mp ended
  obtain ⟨_, marked, _⟩ := partial_report_was_cancelled some_worker run made
  exact ⟨some_worker, run, r, made, marked fun all => all.notPassedOver x member fate⟩

/-- The run is cancelled while its last mutant is at work. The runner goes on and answers, so that
every mutant has its ordinary result, and yet the report is partial. -/
theorem sample_partial_though_complete :
    Reachable Sample.sched (.initial 1 (offers Sample.rules [Sample.file]) {})
      (Sample.lastCancelled "$b - 2") ∧
    ∃ r, (Sample.lastCancelled "$b - 2").report = some r ∧ r.isPartial = true ∧
      Complete (offers Sample.rules [Sample.file]) (Sample.lastCancelled "$b - 2").history := by
  have run := Sample.reachable_lastCancelled "$b - 2"
  obtain ⟨marked, nothing_left, tried⟩ :
      (Sample.lastCancelled "$b - 2").report.map Report.isPartial = some true ∧
      (Sample.lastCancelled "$b - 2").stream.isEmpty = true ∧
      ∀ x ∈ (Sample.lastCancelled "$b - 2").history.settled, x.fate ≠ .passedOver := by
    decide +kernel
  obtain ⟨r, made, isPartial⟩ := Option.map_eq_some_iff.mp marked
  have done := run.finished (by decide) made
  have looked := run.accounted.looked
  rw [List.isEmpty_iff.mp nothing_left, List.append_nil] at looked
  exact ⟨run, r, made, isPartial, looked ▸ done.jobs, tried⟩

end MutationTesting.Scheduler
