import MutationTesting.Coverage
import MutationTesting.Proofs.Ordered

/-! A coverage index as the relation that it lists. -/
namespace MutationTesting

/-- The tests of the lines of a file list a test for a line. -/
def LineTests.Lists (lines : LineTests) (line : Nat) (test : TestId) : Prop :=
  ∃ tests, (line, tests) ∈ lines ∧ test ∈ tests

/-- Putting one more test to a line adds just that to what is listed. -/
private theorem LineTests.lists_put {lines : LineTests} {line line' : Nat} {test test' : TestId} :
    LineTests.Lists (Ordered.put line
        (Ordered.insert test ((Ordered.find? line lines).getD [])) lines) line' test' ↔
      lines.Lists line' test' ∨ (line' = line ∧ test' = test) := by
  constructor
  · rintro ⟨tests, listed, member⟩
    rcases Ordered.mem_of_mem_put listed with new | old
    · obtain ⟨rfl, rfl⟩ := Prod.mk.inj new
      rcases Ordered.mem_insert.mp member with rfl | before
      · exact .inr ⟨rfl, rfl⟩
      · cases entry : Ordered.find? line' lines with
        | none => simp [entry] at before
        | some tests =>
          rw [entry, Option.getD_some] at before
          exact .inl ⟨tests, Ordered.mem_of_find? entry, before⟩
    · exact .inl ⟨tests, old, member⟩
  · rintro (⟨tests, listed, member⟩ | ⟨rfl, rfl⟩)
    · rcases Ordered.mem_put_of_mem (k := line)
        (a := Ordered.insert test ((Ordered.find? line lines).getD [])) listed with
        kept | ⟨rfl, entry⟩
      · exact ⟨tests, kept, member⟩
      · refine ⟨_, Ordered.mem_put_self, Ordered.mem_insert.mpr (.inr ?_)⟩
        rw [entry]
        exact member
    · exact ⟨_, Ordered.mem_put_self, Ordered.mem_insert.mpr (.inl rfl)⟩

namespace Coverage

/-- The index says that a test executes a line of a file. -/
def Records (c : Coverage) (file : String) (line : Nat) (test : TestId) : Prop :=
  LineTests.Lists ((Ordered.find? file c.files).getD []) line test

variable {c : Coverage} {file file' : String} {line line' start stop : Nat} {test test' : TestId}

theorem records_iff : c.Records file line test ↔
    ∃ lines, Ordered.find? file c.files = some lines ∧ LineTests.Lists lines line test := by
  rw [Records]
  cases Ordered.find? file c.files with
  | none => simp [LineTests.Lists]
  | some lines => simp

theorem mem_testsForLines :
    test ∈ c.testsForLines file start stop ↔
      ∃ line, start ≤ line ∧ line ≤ stop ∧ c.Records file line test := by
  unfold testsForLines Records
  cases Ordered.find? file c.files with
  | none => simp [LineTests.Lists]
  | some lines =>
    dsimp only [Option.getD_some]
    split
    · next inverted =>
      refine iff_of_false List.not_mem_nil ?_
      rintro ⟨line, after, before, -⟩
      omega
    · rw [Ordered.mem_ofList, List.mem_flatMap]
      simp only [List.mem_filter, Bool.and_eq_true, decide_eq_true_eq, Prod.exists]
      constructor
      · rintro ⟨line, tests, ⟨listed, after, before⟩, member⟩
        exact ⟨line, after, before, tests, listed, member⟩
      · rintro ⟨line, after, before, tests, listed, member⟩
        exact ⟨line, tests, ⟨listed, after, before⟩, member⟩

/-- An answer is a set. -/
theorem pairwise_testsForLines (c : Coverage) (file : String) (start stop : Nat) :
    (c.testsForLines file start stop).Pairwise (· < ·) := by
  rw [testsForLines]
  split
  · exact .nil
  · split
    · exact .nil
    · exact Ordered.pairwise_ofList _

/-- Recording a line of a file for a test adds just that to the relation. -/
theorem records_insert :
    (c.insert file line test).Records file' line' test' ↔
      c.Records file' line' test' ∨ (file' = file ∧ line' = line ∧ test' = test) := by
  rw [Records, insert, Ordered.find?_put]
  by_cases here : file' = file
  · subst here
    rw [if_pos rfl, Option.getD_some, LineTests.lists_put, Records]
    simp only [true_and]
  · rw [if_neg here, Records]
    simp only [here, false_and, or_false]

end Coverage
end MutationTesting
