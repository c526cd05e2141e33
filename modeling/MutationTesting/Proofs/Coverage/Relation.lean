import MutationTesting.Proofs.Coverage.Document
import MutationTesting.Proofs.Except

/-! A coverage index answers as a relation between files, lines and tests would: the triples of the
document that it was read from and those that were inserted since. -/
namespace MutationTesting.Coverage

variable {c d : Coverage} {file file' : String} {line line' start middle stop start' stop' : Nat}
  {test test' : TestId} {added : List (String × Nat × TestId)}

section Questions

private theorem testsForLines_of_lt (inverted : stop < start) :
    c.testsForLines file start stop = [] := by
  rw [List.eq_nil_iff_forall_not_mem]
  intro test answer
  obtain ⟨line, after, before, -⟩ := mem_testsForLines.mp answer
  omega

/-- An answer is told by what is recorded for the file. -/
private theorem testsForLines_congr
    (same : ∀ line test, c.Records file line test ↔ d.Records file line test) (start stop : Nat) :
    c.testsForLines file start stop = d.testsForLines file start stop :=
  Ordered.eq_of_mem_iff (pairwise_testsForLines ..) (pairwise_testsForLines ..) fun test => by
    simp only [mem_testsForLines, same]

private theorem testsForLines_split (after : start ≤ middle) (before : middle < stop) :
    c.testsForLines file start stop = Ordered.ofList
      (c.testsForLines file start middle ++ c.testsForLines file (middle + 1) stop) := by
  refine Ordered.eq_of_mem_iff (pairwise_testsForLines ..) (Ordered.pairwise_ofList _) ?_
  intro test
  rw [Ordered.mem_ofList, List.mem_append, mem_testsForLines, mem_testsForLines, mem_testsForLines]
  constructor
  · rintro ⟨line, low, high, recorded⟩
    rcases Nat.lt_or_ge middle line with right | left
    · exact .inr ⟨line, right, high, recorded⟩
    · exact .inl ⟨line, low, left, recorded⟩
  · rintro (⟨line, low, high, recorded⟩ | ⟨line, low, high, recorded⟩)
    · exact ⟨line, low, by omega, recorded⟩
    · exact ⟨line, by omega, high, recorded⟩

/-- More lines and more records have more tests. -/
private theorem testsForLines_subset (low : start' ≤ start) (high : stop ≤ stop')
    (more : ∀ line test, c.Records file line test → d.Records file line test) :
    c.testsForLines file start stop ⊆ d.testsForLines file start' stop' := by
  intro test answer
  obtain ⟨line, after, before, recorded⟩ := mem_testsForLines.mp answer
  exact mem_testsForLines.mpr ⟨line, by omega, by omega, more line test recorded⟩

/-- Every file is listed once, so that all of its lines are looked at when it is asked for. -/
def IsTable (c : Coverage) : Prop := c.files.Pairwise fun f g => f.1 < g.1

private theorem mem_allTests (table : c.IsTable) :
    test ∈ c.allTests ↔ ∃ file line, c.Records file line test := by
  simp only [allTests, Ordered.mem_ofList, List.mem_flatMap, records_iff,
    Ordered.find?_eq_some (List.pairwise_map.mpr table).nodup, LineTests.Lists, Prod.exists]
  constructor
  · rintro ⟨file, lines, listed, line, tests, entry, member⟩
    exact ⟨file, line, lines, listed, tests, entry, member⟩
  · rintro ⟨file, line, lines, listed, tests, entry, member⟩
    exact ⟨file, lines, listed, line, tests, entry, member⟩

end Questions

section Histories

/-- An index into which nothing has been inserted, and the triples that it starts with. -/
inductive Starts : Coverage → (String → Nat → TestId → Prop) → Prop
  | empty : Starts {} fun _ _ _ => False
  | document {text : String} {document : Json} {c : Coverage}
      (parsed : Json.ofDocument? text = some document) (accepted : ofText text = .ok c) :
      Starts c document.ListsTest

def insertAll (c : Coverage) (added : List (String × Nat × TestId)) : Coverage :=
  added.foldl (fun c t => c.insert t.1 t.2.1 t.2.2) c

private theorem ofValue?_of_ofText {text : String} (accepted : ofText text = .ok c) :
    (Json.ofDocument? text).bind ofValue? = some c := by
  rw [ofText] at accepted
  split at accepted
  · cases accepted
  · next read =>
    split at accepted
    · split at accepted
      · cases accepted
      · cases accepted
        exact read
    · cases accepted

private theorem isTable_of_ofValue? {document : Json} (read : ofValue? document = some c) :
    c.IsTable := by
  cases document with
  | obj fields =>
    obtain ⟨entries, -, read⟩ := Option.map_eq_some_iff.mp read
    cases read
    exact Ordered.pairwise_tableOfList entries
  | _ => cases read

theorem IsTable.insert (table : c.IsTable) : (c.insert file line test).IsTable :=
  Ordered.pairwise_put table

private theorem IsTable.insertAll (table : c.IsTable) : (c.insertAll added).IsTable := by
  induction added generalizing c with
  | nil => exact table
  | cons t added ih => exact ih table.insert

variable {listed : String → Nat → TestId → Prop}

private theorem Starts.isTable (h : Starts c listed) : c.IsTable := by
  cases h with
  | empty => exact .nil
  | document parsed accepted =>
    obtain ⟨document, -, read⟩ := Option.bind_eq_some_iff.mp (ofValue?_of_ofText accepted)
    exact isTable_of_ofValue? read

theorem Starts.records_iff (h : Starts c listed) :
    c.Records file line test ↔ listed file line test := by
  cases h with
  | empty => exact iff_of_false (fun ⟨_, entry, _⟩ => nomatch entry) not_false
  | document parsed accepted =>
    have read := ofValue?_of_ofText accepted
    rw [parsed, Option.bind_some] at read
    exact records_iff_listsTest read

/-- What is recorded after a sequence of inserts: what was before, and what was inserted. -/
private theorem records_insertAll : (c.insertAll added).Records file line test ↔
    c.Records file line test ∨ (file, line, test) ∈ added := by
  induction added generalizing c with
  | nil => simp [insertAll]
  | cons t added ih =>
    obtain ⟨f, l, t⟩ := t
    rw [insertAll, List.foldl_cons, ← insertAll, ih, records_insert, List.mem_cons, or_assoc,
      Prod.mk.injEq, Prod.mk.injEq]

/-- Let an index start empty or from an accepted document, let triples be inserted, and let the
relation be that of the document's and the inserted triples. What is answered for lines of a file is
the set of the tests that the relation has for one of them, nothing if the lines end before they
start. The order and the repetition of the inserts make no difference. A range answers as its two
parts do, more lines and more inserts answer no less, inserts for one file leave the answers for
another as they are, and all tests are those of the relation. -/
theorem index_is_relation (begun : Starts c listed) (added : List (String × Nat × TestId)) :
    (∀ file start stop test, test ∈ (c.insertAll added).testsForLines file start stop ↔
      ∃ line, start ≤ line ∧ line ≤ stop ∧
        (listed file line test ∨ (file, line, test) ∈ added)) ∧
    (∀ file start stop, ((c.insertAll added).testsForLines file start stop).Pairwise (· < ·)) ∧
    (∀ file start stop, stop < start → (c.insertAll added).testsForLines file start stop = []) ∧
    (∀ added', (∀ t, t ∈ added' ↔ t ∈ added) → ∀ file start stop,
      (c.insertAll added').testsForLines file start stop =
        (c.insertAll added).testsForLines file start stop) ∧
    (∀ file start middle stop, start ≤ middle → middle < stop →
      (c.insertAll added).testsForLines file start stop = Ordered.ofList
        ((c.insertAll added).testsForLines file start middle ++
          (c.insertAll added).testsForLines file (middle + 1) stop)) ∧
    (∀ file start stop start' stop', start' ≤ start → stop ≤ stop' →
      (c.insertAll added).testsForLines file start stop ⊆
        (c.insertAll added).testsForLines file start' stop') ∧
    (∀ more file start stop, (c.insertAll added).testsForLines file start stop ⊆
      (c.insertAll (added ++ more)).testsForLines file start stop) ∧
    (∀ file line test file', file' ≠ file → ∀ start stop,
      ((c.insertAll added).insert file line test).testsForLines file' start stop =
        (c.insertAll added).testsForLines file' start stop) ∧
    (c.insertAll added).allTests.Pairwise (· < ·) ∧
    (∀ test, test ∈ (c.insertAll added).allTests ↔
      ∃ file line, listed file line test ∨ (file, line, test) ∈ added) := by
  have relation (added file line test) : (c.insertAll added).Records file line test ↔
      listed file line test ∨ (file, line, test) ∈ added := by
    rw [records_insertAll, begun.records_iff]
  refine ⟨?_, ?_, ?_, ?_, ?_, ?_, ?_, ?_, Ordered.pairwise_ofList _, ?_⟩
  · intro file start stop test
    simp only [mem_testsForLines, relation]
  · exact fun file start stop => pairwise_testsForLines ..
  · exact fun file start stop inverted => testsForLines_of_lt inverted
  · intro added' same file start stop
    exact testsForLines_congr (fun line test => by simp only [relation, same]) start stop
  · exact fun file start middle stop after before => testsForLines_split after before
  · exact fun file start stop start' stop' low high =>
      testsForLines_subset low high fun line test recorded => recorded
  · intro more file start stop
    refine testsForLines_subset le_rfl le_rfl fun line test recorded => ?_
    rw [relation] at recorded ⊢
    exact recorded.imp_right (List.mem_append_left more)
  · intro file line test file' other start stop
    refine testsForLines_congr (fun line' test' => ?_) start stop
    rw [records_insert, or_iff_left fun here => other here.1]
  · intro test
    simp only [mem_allTests begun.isTable.insertAll, relation]

def sampleText : String :=
  "\x7b\"a.php\": \x7b\"12\": [\"testSum\", \"testAdd\"], \"13\": [\"testAdd\"], \"20\": []\x7d,"
    ++ "\"b.php\": \x7b\"1\": [\"testOld\"], \"1\": [\"testIt\"]\x7d\x7d"

def sampleIndex : Coverage where
  files := [("a.php", [(12, ["testAdd", "testSum"]), (13, ["testAdd"]), (20, [])]),
    ("b.php", [(1, ["testIt"])])]

theorem sample_index_is_relation : ∃ document, Json.ofDocument? sampleText = some document ∧
    ofText sampleText = .ok sampleIndex ∧ document.ListsTest "a.php" 13 "testAdd" ∧
      (sampleIndex.insertAll [("a.php", 14, "testEnd")]).testsForLines "a.php" 13 20 =
        ["testAdd", "testEnd"] := by
  obtain ⟨document, parsed⟩ : ∃ document, Json.ofDocument? sampleText = some document :=
    Option.isSome_iff_exists.mp (by decide +kernel)
  have accepted : ofText sampleText = .ok sampleIndex := toOption_eq_some.mp (by decide +kernel)
  have answers := (index_is_relation (.document parsed accepted) [("a.php", 14, "testEnd")]).1
  refine ⟨document, parsed, accepted, ?_, by decide +kernel⟩
  obtain ⟨line, low, high, listed | inserted⟩ :=
    (answers "a.php" 13 13 "testAdd").mp (by decide +kernel)
  · obtain rfl : line = 13 := by omega
    exact listed
  · simp at inserted

end Histories

end MutationTesting.Coverage
