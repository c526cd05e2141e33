import Mathlib.Data.List.Forall2
import MutationTesting.Proofs.Coverage
import MutationTesting.Proofs.Mutant.Origin
import MutationTesting.Proofs.Mutant.Stream
import MutationTesting.Proofs.Tree.Walk

/-! Coverage has a say in the labels of a stream and in the tests of its mutants, and in nothing
else. -/
namespace MutationTesting

def Node.Touches (n : Node) (line : Nat) : Prop :=
  ∃ start stop, n.lineRange? = some (start, stop) ∧ start ≤ line ∧ line ≤ stop

namespace Generated

/-- The item as it is where nothing is known about coverage. -/
def withoutCoverage : Generated → Generated
  | mutant m | notCovered m => .mutant { m with coveringTests := [] }
  | skipped m => .skipped { m with coveringTests := [] }
  | fault d => .fault d

/-- An item and what it becomes when more is known about coverage: the same proposal with no test
less, which is tried if it was tried before. -/
structure Gains (before after : Generated) : Prop where
  same : before.withoutCoverage = after.withoutCoverage
  tried : ∀ m, before = .mutant m → ∃ m', after = .mutant m'
  tests : ∀ m m', before.mutant? = some m → after.mutant? = some m' →
    ∀ test ∈ m.coveringTests, test ∈ m'.coveringTests

end Generated

namespace GenerationRules

variable {rules rules' : GenerationRules} {file : Location} {n : Node} {m : Mutant}

theorem mem_coveringTests {test : TestId} :
    test ∈ rules.coveringTests file n ↔
      ∃ index, rules.coverage = some index ∧ ∃ line, n.Touches line ∧
        index.Records file line test := by
  unfold coveringTests
  split
  · next index start stop known range =>
    rw [Coverage.mem_testsForLines, known]
    constructor
    · rintro ⟨line, after, before, listed⟩
      exact ⟨index, rfl, line, ⟨start, stop, range, after, before⟩, listed⟩
    · rintro ⟨index', same, line, ⟨start', stop', range', after, before⟩, listed⟩
      obtain rfl := Option.some.inj same
      obtain ⟨rfl, rfl⟩ := Prod.mk.inj (Option.some.inj (range.symm.trans range'))
      exact ⟨line, after, before, listed⟩
  · next missing =>
    refine ⟨fun h => absurd h List.not_mem_nil, ?_⟩
    rintro ⟨index, known, _, ⟨start, stop, range, _⟩, _⟩
    exact (missing index start stop known range).elim

private theorem isUncovered_iff :
    rules.isUncovered file n = true ↔
      rules.onlyCovered = true ∧ ∃ index, rules.coverage = some index ∧
        ∀ line test, n.Touches line → ¬ index.Records file line test := by
  rw [isUncovered, Bool.and_eq_true, Bool.and_eq_true, and_assoc, Option.isSome_iff_exists,
    List.isEmpty_iff, List.eq_nil_iff_forall_not_mem]
  refine and_congr_right fun _ => ?_
  simp only [mem_coveringTests]
  constructor
  · rintro ⟨⟨index, known⟩, none_⟩
    exact ⟨index, known, fun line test touched listed =>
      none_ test ⟨index, known, line, touched, listed⟩⟩
  · rintro ⟨index, known, none_⟩
    refine ⟨⟨index, known⟩, ?_⟩
    rintro test ⟨index', known', line, touched, listed⟩
    obtain rfl := Option.some.inj (known.symm.trans known')
    exact none_ line test touched listed

private theorem label_eq_notCovered :
    rules.label n m = .notCovered m ↔
      rules.label n m ≠ .skipped m ∧ rules.isUncovered m.file n = true := by
  unfold label
  split
  · simp
  · split
    · next uncovered => simp [uncovered]
    · next covered => simp [covered]

private theorem withoutCoverage_label (rules : GenerationRules) (n : Node) (m : Mutant) :
    (rules.label n m).withoutCoverage =
      label { registry := rules.registry } n { m with coveringTests := [] } := by
  have heeded : isUncovered { registry := rules.registry } m.file n = false := rfl
  simp only [label, heeded, Bool.false_eq_true, if_false]
  split
  · rfl
  · split <;> rfl

private theorem withoutCoverage_itemFor (rules : GenerationRules) (file : Location) (p : Proposed) :
    (rules.itemFor file p).withoutCoverage =
      itemFor { registry := rules.registry } file p := by
  unfold itemFor item
  split
  · exact withoutCoverage_label ..
  · rfl

private theorem gains_itemFor {index index' : Coverage} (registry : Registry) (onlyCovered : Bool)
    (more : ∀ file line test, index.Records file line test → index'.Records file line test)
    (file : Location) (p : Proposed) :
    (itemFor ⟨registry, some index, onlyCovered⟩ file p).Gains
      (itemFor ⟨registry, some index', onlyCovered⟩ file p) where
  same := by rw [withoutCoverage_itemFor, withoutCoverage_itemFor]
  tried := by
    have covered : isUncovered ⟨registry, some index', onlyCovered⟩ file p.node = true →
        isUncovered ⟨registry, some index, onlyCovered⟩ file p.node = true := by
      simp only [isUncovered_iff, Option.some.injEq, exists_eq_left']
      exact fun h => ⟨h.1, fun line test touched listed =>
        h.2 line test touched (more _ _ _ listed)⟩
    unfold itemFor item
    split
    · intro m tried
      unfold label at tried ⊢
      dsimp only at tried ⊢
      split at tried
      · cases tried
      · next heeded =>
        split at tried
        · cases tried
        · next uncovered =>
          rw [if_neg heeded, if_neg fun h => uncovered (covered h)]
          exact ⟨_, rfl⟩
    · intro m tried
      cases tried
  tests := by
    unfold itemFor item
    split
    · intro m m' hm hm' test
      rw [Generated.mutant?_label] at hm hm'
      obtain rfl := Option.some.inj hm
      obtain rfl := Option.some.inj hm'
      simp only [mem_coveringTests, Option.some.injEq, exists_eq_left']
      rintro ⟨line, touched, listed⟩
      exact ⟨line, touched, more _ _ _ listed⟩
    · intro m m' hm
      cases hm

/-- Without its labels and tests the stream of a file is the one that is made without coverage, item
by item: no item is lost, moved or renamed, and the ignored ones are the same. A mutant is left out
for want of a test exactly when its operator is not ignored, only covered code is tried and the
index lists no test for any line of the node. Whatever is recorded in the index besides, no mutant
that was tried is left out and no test is lost. -/
theorem coverage_only_relabels (rules : GenerationRules) (f : SourceFile) :
    (rules.generate f).map Generated.withoutCoverage =
      generate { registry := rules.registry } f ∧
    (∀ item ∈ rules.generate f, ∀ m, item.mutant? = some m → ∃ n, f.ast.get? m.path = some n ∧
      (item = .notCovered m ↔ item ≠ .skipped m ∧ rules.onlyCovered = true ∧
        ∃ index, rules.coverage = some index ∧
          ∀ line test, n.Touches line → ¬ index.Records f.path line test)) ∧
    ∀ (index : Coverage) (file : String) (line : Nat) (test : TestId),
      List.Forall₂ Generated.Gains
        (generate { rules with coverage := some index } f)
        (generate { rules with coverage := some (index.insert file line test) } f) := by
  refine ⟨?_, ?_, ?_⟩
  · rw [generate_eq_map, generate_eq_map, List.map_map]
    exact List.map_congr_left fun p _ => withoutCoverage_itemFor rules f.path p
  · intro item generated m hm
    obtain ⟨n, visited, rfl, named, -⟩ := mutant_origin generated hm
    refine ⟨n, Node.get?_of_mem_walk visited, ?_⟩
    rw [label_eq_notCovered, isUncovered_iff, named]
  · intro index file line test
    rw [generate_eq_map, generate_eq_map, List.forall₂_map_left_iff, List.forall₂_map_right_iff,
      List.forall₂_same]
    exact fun p _ => gains_itemFor rules.registry rules.onlyCovered
      (fun _ _ _ listed => Coverage.records_insert.mpr (.inl listed)) f.path p

namespace Sample

def sumAt (line : Nat) : Node where
  kind := .binary .plus
  children := [.leaf (.variableRef "$a"), .leaf (.variableRef "$b")]
  span := some ⟨0, 0, line, line⟩

def sums : SourceFile where
  path := "sums"
  ast := { kind := .module, children := [sumAt 1, sumAt 2] }

/-- Only covered code is tried, and only the first line is covered. -/
def firstLine : GenerationRules where
  registry := ⟨[.arithmetic .plus], []⟩
  coverage := some ⟨[("sums", [(1, ["first"])])]⟩
  onlyCovered := true

end Sample

theorem sample_coverage_only_relabels :
    (Sample.firstLine.generate Sample.sums).map Generated.withoutCoverage =
      generate { registry := Sample.firstLine.registry } Sample.sums ∧
    (∃ m, .notCovered m ∈ Sample.firstLine.generate Sample.sums ∧ m.path = [1]) ∧
    List.Forall₂ Generated.Gains (Sample.firstLine.generate Sample.sums)
      (generate { Sample.firstLine with
        coverage := some ⟨[("sums", [(1, ["first"]), (2, ["second"])])]⟩ } Sample.sums) := by
  obtain ⟨same, labels, gains⟩ := coverage_only_relabels Sample.firstLine Sample.sums
  refine ⟨same, ?_, gains ⟨[("sums", [(1, ["first"])])]⟩ "sums" 2 "second"⟩
  obtain ⟨item, m, generated, hm, heeded, place⟩ : ∃ item m,
      item ∈ Sample.firstLine.generate Sample.sums ∧ item.mutant? = some m ∧
        item ≠ .skipped m ∧ m.path = [1] :=
    ⟨_, _, List.mem_of_getElem? (i := 1) rfl, rfl, nofun, rfl⟩
  obtain ⟨n, here, label⟩ := labels item generated m hm
  rw [place] at here
  obtain rfl : Sample.sumAt 2 = n := Option.some.inj here
  refine ⟨m, label.mpr ⟨heeded, rfl, _, rfl, ?_⟩ ▸ generated, place⟩
  rintro line test ⟨start, stop, range, after, before⟩ ⟨tests, listed, -⟩
  obtain ⟨rfl, rfl⟩ := Prod.mk.inj (Option.some.inj range)
  obtain ⟨rfl, -⟩ := Prod.mk.inj (List.mem_singleton.mp listed)
  exact absurd after (by decide)

end GenerationRules
end MutationTesting
