import MutationTesting.Proofs.Mutant.Listing
import MutationTesting.Proofs.Scheduler.Driven
import MutationTesting.Proofs.Scheduler.Ending

/-! No mutant is lost and none counts twice, in whatever order dispatcher and workers move, whatever
the runner does and whenever the run is cancelled. -/
namespace MutationTesting.Scheduler

/-- An item with a mutant is either for the workers or done with at once. -/
private theorem settled_jobs_perm (os : List Offer) :
    ((os.filterMap Offer.aside?).map Settled.job ++ os.filterMap Offer.job?).Perm
      (os.filterMap Offer.subject?) := by
  induction os with
  | nil => exact .refl _
  | cons o os ih =>
    rcases o with ⟨source, item⟩
    cases item with
    | mutant m => exact List.perm_middle.trans (ih.cons _)
    | notCovered m => exact ih.cons _
    | skipped m => exact ih.cons _
    | fault d => exact ih

theorem Finished.jobs {sched : Scheduler} {stream : List Offer} {s : State} {r : Report}
    (h : Finished sched stream s r) :
    (s.history.settled.map Settled.job).Perm (s.history.offers.filterMap Offer.subject?) := by
  rw [History.settled, List.map_append]
  have hw : (s.history.worked.map Settled.job).Perm (s.history.offers.filterMap Offer.job?) :=
    h.queued ▸ h.worked
  exact (hw.append_left _).trans (settled_jobs_perm _)

theorem Finished.ids {sched : Scheduler} {stream : List Offer} {s : State} {r : Report}
    (h : Finished sched stream s r) :
    (r.results.map fun x => x.mutant.id).Perm
      ((s.history.offers.filterMap Offer.subject?).map fun j => j.mutant.id) := by
  have hr := h.results.map fun x => x.mutant.id
  have hj := h.jobs.map fun j => j.mutant.id
  rw [List.map_map] at hr hj
  exact hr.trans hj

/-- The report has one result for every job that entered the queue, one for every item that the
dispatcher itself was done with, and no others. Unless the run was cancelled the identifiers are
those that a listing of the same sources shows, and all faults are there, in order. -/
theorem report_has_every_mutant_once {sched : Scheduler} {rules : GenerationRules}
    {sources : List SourceFile} {d : Disk} {s : State} {r : Report}
    (some_worker : 0 < sched.workers)
    (run : Reachable sched (.initial sched.workers (offers rules sources) d) s)
    (made : s.report = some r) :
    s.history.offers <+: offers rules sources ∧
    s.history.queued = s.history.offers.filterMap Offer.job? ∧
    (s.history.worked.map Settled.job).Perm s.history.queued ∧
    r.results.Perm ((s.history.offers.filterMap Offer.aside? ++ s.history.worked).map
      (Settled.result sched.settings)) ∧
    (.cancelled ∉ s.history →
      (r.results.map fun x => x.mutant.id).Perm
        (((offers rules sources).filterMap Offer.subject?).map fun j => j.mutant.id) ∧
      (∀ style, (r.results.map fun x => x.mutant.id).Perm
        (shownIds (rules.listing style sources))) ∧
      r.diagnostics = (offers rules sources).filterMap fun o => o.item.diagnostic?) := by
  have done := run.finished some_worker made
  refine ⟨done.looked, done.queued, done.worked, done.results, ?_⟩
  intro uncancelled
  have all := done.complete uncancelled
  have ids := done.ids
  rw [all] at ids
  refine ⟨ids, fun style => ?_, ?_⟩
  · rw [shownIds_listing]
    exact ids
  · rw [done.diagnostics, all]

theorem sample_report_has_every_mutant_once :
    0 < Sample.sched.workers ∧
    ∃ r, (Sample.last 2 1).report = some r ∧ .cancelled ∉ (Sample.last 2 1).history ∧
      (r.results.map fun x => x.mutant.id).Perm
        (shownIds (Sample.rules.listing Sample.settings.printer [Sample.file])) := by
  have some_worker : 0 < Sample.sched.workers := by decide
  have run := Sample.reachable_last 2 1
  have uncancelled := run.controlled.uncancelled (by decide +kernel)
  obtain ⟨r, made⟩ := Option.isSome_iff_exists.mp
    (show (Sample.last 2 1).report.isSome = true by decide +kernel)
  obtain ⟨_, _, _, _, complete⟩ := report_has_every_mutant_once some_worker run made
  exact ⟨some_worker, r, made, uncancelled, (complete uncancelled).2.1 _⟩

end MutationTesting.Scheduler
