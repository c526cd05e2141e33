import MutationTesting.Proofs.Mutant.Labels
import MutationTesting.Proofs.Scheduler.Conduct

/-! Which tests the runner is asked for: those that cover the mutant where only covered code is
tried, and the whole suite where nothing is known about coverage. -/
namespace MutationTesting

namespace GenerationRules

variable {rules : GenerationRules} {f : SourceFile} {m : Mutant} {n : Node}

/-- Tests are kept as a set. -/
private theorem pairwise_coveringTests (rules : GenerationRules) (file : Location) (n : Node) :
    (rules.coveringTests file n).Pairwise (· < ·) := by
  unfold coveringTests
  split
  · exact Coverage.pairwise_testsForLines _ _ _ _
  · exact .nil

private theorem coveringTests_eq_nil (unknown : rules.coverage = none) (file : Location)
    (n : Node) : rules.coveringTests file n = [] := by
  rw [coveringTests, unknown]

/-- A mutant that is to be tried has a test, if only covered code is tried. -/
private theorem covered_of_label (h : rules.label n m = .mutant m) (only : rules.onlyCovered = true)
    (known : rules.coverage.isSome = true) : rules.coveringTests m.file n ≠ [] := by
  have covered : rules.isUncovered m.file n ≠ true := by
    intro uncovered
    rw [label, if_pos uncovered] at h
    split at h
    · cases h
    · cases h
  intro empty
  exact covered (by rw [isUncovered, only, known, empty]; rfl)

/-- A mutant that is to be tried, the node it replaces and the tests it is to be tried with. -/
private theorem exists_target_of_mutant (h : .mutant m ∈ rules.generate f) :
    ∃ n, f.ast.get? m.path = some n ∧ m.coveringTests = rules.coveringTests f.path n ∧
      (rules.onlyCovered = true → rules.coverage.isSome = true → m.coveringTests ≠ []) := by
  obtain ⟨p, proposed, made⟩ := exists_proposed h
  have makes : rules.Makes f.path p m := makes_of_itemFor (by rw [made, Generated.mutant?])
  have label : rules.label p.node m = .mutant m := makes.label.symm.trans made
  obtain ⟨file, path⟩ := makes.place
  refine ⟨p.node, ?_, makes.tests, ?_⟩
  · rw [path]
    exact Node.get?_of_mem_walk (mem_proposedIn proposed).1
  · intro only known
    rw [makes.tests, ← file]
    exact covered_of_label label only known

end GenerationRules

namespace Scheduler

/-- Only items of the stream that are to be tried are ever asked about. -/
private theorem Accounted.offered_of_called {sched : Scheduler} {stream : List Offer} {s : State}
    (h : Accounted sched stream s) {j : Job} {call : AdapterCall} (called : (j, call) ∈ s.calls) :
    ⟨j.source, .mutant j.mutant⟩ ∈ stream := by
  have queued : j ∈ s.history.queued :=
    h.calls_subperm.subset (List.mem_map.mpr ⟨(j, call), called, rfl⟩)
  obtain ⟨⟨source, item⟩, offered, job⟩ := List.mem_filterMap.mp (h.job_of_queued queued)
  cases item with
  | mutant m =>
    obtain rfl := Option.some.inj job
    exact offered
  | notCovered m => cases job
  | skipped m => cases job
  | fault d => cases job

/-- Whatever the order of moves, every request for a mutant names the tests that the index lists for
a line of the replaced node, one at least, if only covered code is tried; where there is no index it
asks for the whole suite. -/
theorem requests_name_the_covering_tests {sched : Scheduler} {rules : GenerationRules}
    {sources : List SourceFile} {workers : Nat} {d : Disk} {s : State}
    (run : Reachable sched (.initial workers (offers rules sources) d) s) :
    ∀ x ∈ s.calls, x.1.source ∈ sources ∧
      ∃ n, x.1.source.ast.get? x.1.mutant.path = some n ∧
        (∀ index, rules.coverage = some index → rules.onlyCovered = true →
          ∃ tests, x.2.request.selection = .only tests ∧ tests ≠ [] ∧ tests.Pairwise (· < ·) ∧
            ∀ test, test ∈ tests ↔
              ∃ line, n.Touches line ∧ index.Records x.1.source.path line test) ∧
        (rules.coverage = none → x.2.request.selection = .all) := by
  intro x called
  obtain ⟨listed, generated⟩ := mem_offers.mp (run.accounted.offered_of_called called)
  obtain ⟨_, -, -, request⟩ := run.conducted.asked x called
  have selected : x.2.request.selection = .forMutant x.1.mutant := by rw [request]; rfl
  obtain ⟨n, here, tests, covered⟩ := GenerationRules.exists_target_of_mutant generated
  refine ⟨listed, n, here, ?_, ?_⟩
  · intro index known only
    have some_ : x.1.mutant.coveringTests ≠ [] := covered only (by rw [known]; rfl)
    refine ⟨x.1.mutant.coveringTests, ?_, some_, ?_, ?_⟩
    · rw [selected, TestSelection.forMutant, if_neg (by simpa using some_)]
    · rw [tests]
      exact rules.pairwise_coveringTests _ _
    · intro test
      rw [tests, GenerationRules.mem_coveringTests, known]
      simp only [Option.some.injEq, exists_eq_left']
  · intro unknown
    rw [selected, TestSelection.forMutant, tests, GenerationRules.coveringTests_eq_nil unknown]
    rfl

namespace Sample

def lastUnknown : State :=
  let start := State.initial 2 (offers { rules with coverage := none } [file]) {}
  runMoves sched adapter start.movesLeft start

end Sample

theorem sample_requests_name_the_covering_tests :
    Reachable { Sample.sched with workers := 2, lookahead := 1 }
      (.initial 2 (offers Sample.rules [Sample.file]) {}) (Sample.last 2 1) ∧
    (Sample.last 2 1).calls.length = 2 ∧
    (∀ x ∈ (Sample.last 2 1).calls, ∃ tests, x.2.request.selection = .only tests ∧ tests ≠ []) ∧
    Sample.lastUnknown.calls.length = 3 ∧
    ∀ x ∈ Sample.lastUnknown.calls, x.2.request.selection = .all := by
  have run := Sample.reachable_last 2 1
  have unknown : Reachable Sample.sched
      (.initial 2 (offers { Sample.rules with coverage := none } [Sample.file]) {})
      Sample.lastUnknown := reachable_runMoves Sample.adapter _ .start
  refine ⟨run, by decide +kernel, ?_, by decide +kernel, ?_⟩
  · intro x called
    obtain ⟨-, n, -, known, -⟩ := requests_name_the_covering_tests run x called
    obtain ⟨tests, selected, some_, -, -⟩ := known _ rfl rfl
    exact ⟨tests, selected, some_⟩
  · intro x called
    obtain ⟨-, n, -, -, whole⟩ := requests_name_the_covering_tests unknown x called
    exact whole rfl

end Scheduler
end MutationTesting
