import Mathlib.Data.List.Forall2
import MutationTesting.Proofs.Coverage
import MutationTesting.Proofs.Json.Number
import MutationTesting.Proofs.Json.Record

/-! A coverage document as the relation that it lists, told without reading it into an index. -/
namespace MutationTesting

namespace Json

/-- What an object has under a name; of several fields with that name the last one counts. -/
def lastField? (name : String) : Json → Option Json
  | .obj fields => lookup? name fields.reverse
  | _ => none

/-- A document lists a test for a line of a file. -/
def ListsTest (document : Json) (file : String) (line : Nat) (test : TestId) : Prop :=
  ∃ lines tests, document.lastField? file = some lines ∧
    lines.lastField? (toString line) = some (.arr tests) ∧ .str test ∈ tests

private theorem lastField?_eq_some {name : String} {fields : List (String × Json)} {value : Json}
    (once : (fields.map Prod.fst).Nodup) :
    (Json.obj fields).lastField? name = some value ↔ (name, value) ∈ fields := by
  rw [lastField?, ← List.mem_reverse]
  refine ⟨mem_of_lookup?, lookup?_eq_some ?_⟩
  rwa [List.map_reverse, List.nodup_reverse]

/-- Where no name is repeated, a document lists just what is written in it. -/
theorem listsTest_iff_written {files : List (String × Json)} {file : String} {line : Nat}
    {test : TestId} (once : (files.map Prod.fst).Nodup)
    (below : ∀ lines, (file, .obj lines) ∈ files → (lines.map Prod.fst).Nodup) :
    (Json.obj files).ListsTest file line test ↔ ∃ lines tests, (file, .obj lines) ∈ files ∧
      (toString line, .arr tests) ∈ lines ∧ .str test ∈ tests := by
  constructor
  · rintro ⟨value, tests, here, listed, member⟩
    rw [lastField?_eq_some once] at here
    cases value with
    | obj lines =>
      rw [lastField?_eq_some (below lines here)] at listed
      exact ⟨lines, tests, here, listed, member⟩
    | _ => cases listed
  · rintro ⟨lines, tests, here, listed, member⟩
    exact ⟨.obj lines, tests, (lastField?_eq_some once).mpr here,
      (lastField?_eq_some (below lines here)).mpr listed, member⟩

end Json

section Reading

private theorem forall₂_of_mapM {α β : Type} {read : α → Option β} {xs : List α} {ys : List β}
    (all : xs.mapM read = some ys) : List.Forall₂ (fun x y => read x = some y) xs ys := by
  induction xs generalizing ys with
  | nil =>
    cases all
    exact .nil
  | cons x xs ih =>
    rw [List.mapM_cons] at all
    obtain ⟨y, first, all⟩ := Option.bind_eq_some_iff.mp all
    obtain ⟨ys, rest, all⟩ := Option.bind_eq_some_iff.mp all
    cases all
    exact .cons first (ih rest)

variable {κ α : Type} [DecidableEq κ] {read : String × Json → Option (κ × α)}
  {fields : List (String × Json)} {entries : List (κ × α)} {name : κ → String} {k : κ}
  {P : α → Prop} {Q : Json → Prop}

/-- Where entries are read one by one and their names tell their keys, what holds of the last entry
with a key is told by the last field with its name. -/
private theorem find?_reverse_of_mapM (injective : Function.Injective name)
    (named : ∀ x y, read x = some y → x.1 = name y.1)
    (agree : ∀ v a, read (name k, v) = some (k, a) → (P a ↔ Q v))
    (all : fields.mapM read = some entries) :
    (∃ a, Ordered.find? k entries.reverse = some a ∧ P a) ↔
      ∃ v, (Json.obj fields).lastField? (name k) = some v ∧ Q v := by
  have pairs := List.forall₂_reverse_iff.mpr (forall₂_of_mapM all)
  rw [Json.lastField?]
  generalize fields.reverse = fields, entries.reverse = entries at pairs
  induction pairs with
  | nil => simp [Ordered.find?, Json.lookup?]
  | @cons x y fields entries first rest ih =>
    obtain ⟨n, v⟩ := x
    obtain ⟨l, a⟩ := y
    obtain rfl : n = name l := named _ _ first
    rw [Ordered.find?, Json.lookup?]
    by_cases here : k = l
    · subst here
      simpa using agree v a first
    · rw [if_neg here, if_neg (injective.ne (Ne.symm here))]
      exact ih

end Reading

namespace Coverage

variable {file : String} {line : Nat} {test : TestId}

private theorem eq_toString_of_lineKey? {key : String} (read : lineKey? key = some line) :
    key = toString line := by
  rw [lineKey?] at read
  split at read
  · next n number =>
    split at read
    · next nonneg =>
      cases read
      refine String.toList_injective ?_
      rw [Json.number?_eq_int number nonneg, List.append_nil, toList_toString]
    · cases read
  · cases read

private theorem eq_of_asList? {value : Json} {tests : List TestId}
    (read : Json.asList? Json.asString? value = some tests) : value = .arr (tests.map .str) := by
  cases value with
  | arr items =>
    have strings : List.Forall₂ (· = ·) items (tests.map .str) := by
      refine List.forall₂_map_right_iff.mpr ((forall₂_of_mapM read).imp fun item test text => ?_)
      cases item with
      | str s => exact congrArg _ (Option.some.inj text)
      | _ => cases text
    rw [List.forall₂_eq_eq_eq] at strings
    rw [strings]
  | _ => cases read

private theorem lineEntry_eq_some {x : String × Json} {tests : List TestId}
    (read : lineEntry? x = some (line, tests)) : x.1 = toString line ∧
      ∃ listed : List TestId, x.2 = .arr (listed.map .str) ∧ tests = Ordered.ofList listed := by
  obtain ⟨l, number, read⟩ := Option.bind_eq_some_iff.mp read
  obtain ⟨listed, texts, read⟩ := Option.bind_eq_some_iff.mp read
  cases read
  exact ⟨eq_toString_of_lineKey? number, listed, eq_of_asList? texts, rfl⟩

private theorem fileEntry_eq_some {x : String × Json} {lines : LineTests}
    (read : fileEntry? x = some (file, lines)) : x.1 = file ∧
      ∃ fields entries, x.2 = .obj fields ∧ fields.mapM lineEntry? = some entries ∧
        lines = Ordered.tableOfList entries := by
  unfold fileEntry? at read
  split at read
  · next fields object =>
    obtain ⟨entries, all, read⟩ := Option.map_eq_some_iff.mp read
    cases read
    exact ⟨rfl, fields, entries, object, all, rfl⟩
  · cases read

/-- A line has the tests of the last field with its number. -/
private theorem lists_tableOfList {fields : List (String × Json)} {entries : LineTests}
    (all : fields.mapM lineEntry? = some entries) :
    LineTests.Lists (Ordered.tableOfList entries) line test ↔
      ∃ tests, (Json.obj fields).lastField? (toString line) = some (.arr tests) ∧
        .str test ∈ tests := by
  have agree (value : Json) (tests : List TestId)
      (read : lineEntry? (toString line, value) = some (line, tests)) :
      test ∈ tests ↔ ∃ items, value = .arr items ∧ .str test ∈ items := by
    obtain ⟨-, listed, rfl, rfl⟩ := lineEntry_eq_some read
    simp [Ordered.mem_ofList]
  have injective : Function.Injective (toString : Nat → String) := fun m n same =>
    toDigits_inj.mp (by rw [← toList_toString, ← toList_toString, same])
  have found := find?_reverse_of_mapM injective (fun x y read => (lineEntry_eq_some read).1)
    agree all
  simp only [LineTests.Lists, Ordered.mem_tableOfList, found]
  constructor
  · rintro ⟨_, field, items, rfl, member⟩
    exact ⟨items, field, member⟩
  · rintro ⟨items, field, member⟩
    exact ⟨_, field, items, rfl, member⟩

/-- The index read from a document records what the document lists. -/
theorem records_iff_listsTest {document : Json} {c : Coverage}
    (read : ofValue? document = some c) :
    c.Records file line test ↔ document.ListsTest file line test := by
  cases document with
  | obj fields =>
    obtain ⟨entries, all, read⟩ := Option.map_eq_some_iff.mp read
    cases read
    have agree (value : Json) (lines : LineTests)
        (read : fileEntry? (file, value) = some (file, lines)) : lines.Lists line test ↔
          ∃ tests, value.lastField? (toString line) = some (.arr tests) ∧ .str test ∈ tests := by
      obtain ⟨-, fields, entries, rfl, all, rfl⟩ := fileEntry_eq_some read
      exact lists_tableOfList all
    have found := find?_reverse_of_mapM Function.injective_id
      (fun x y read => (fileEntry_eq_some read).1) agree all
    rw [records_iff]
    simp only [Ordered.find?_tableOfList]
    rw [found]
    simp only [Json.ListsTest, exists_and_left, id]
  | _ => cases read

end Coverage
end MutationTesting
