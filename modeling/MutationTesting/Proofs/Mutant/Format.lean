import MutationTesting.Mutant.Basic
import MutationTesting.Proofs.Ordered
import MutationTesting.Proofs.Tree.Format

/-! Mutants, and the trees in them, are read back from what they are written as. -/
namespace MutationTesting

theorem Path.ofJson?_toJson (p : Path) : Path.ofJson? p.toJson = some p :=
  Json.asList?_map Json.ofNat (fun _ => rfl) p

namespace Mutant

private theorem record?_toJson (m : Mutant) : Json.record?
    ["id", "operator", "file", "path", "replacement", "line", "scope", "covering_tests"] m.toJson =
      some [some (.str m.id), some (.str m.operator), some (.str m.file), some m.path.toJson,
        some m.replacement.toJson, m.line.map .ofNat, m.scope.map .str,
        some (.arr (m.coveringTests.map .str))] := by
  obtain ⟨id, operator, file, path, replacement, line, scope, tests⟩ := m
  cases line <;> cases scope <;> rfl

theorem ofJson?_toJson {m : Mutant} (finite : m.replacement.FloatsFinite)
    (set : m.coveringTests.Pairwise (· < ·)) : ofJson? m.toJson = some m := by
  have path : Json.required Path.ofJson? (some m.path.toJson) = some m.path :=
    m.path.ofJson?_toJson
  have replacement : Json.required Node.ofJson? (some m.replacement.toJson) = some m.replacement :=
    Node.ofJson?_toJson m.replacement finite
  have line : Json.optional Json.asNat? (m.line.map .ofNat) = some m.line := by
    cases m.line <;> rfl
  have scope : Json.optional Json.asString? (m.scope.map .str) = some m.scope := by
    cases m.scope <;> rfl
  have tests : Json.withDefault [] (Json.asList? Json.asString?)
      (some (.arr (m.coveringTests.map .str))) = some m.coveringTests :=
    Json.asList?_map Json.str (fun _ => rfl) m.coveringTests
  rw [ofJson?, record?_toJson]
  simp only [Option.bind_eq_bind, Option.bind_some, path, replacement, line, scope, tests,
    Ordered.ofList_eq_self set]
  rfl

end Mutant
/-- A tree whose float literals are finite is read back from its written form as it was, and so is a
mutant with such a replacement. A value that is read as a tree and written again is in its final
form: reading and writing it once more changes nothing. That holds of all values with numbers that
a document can hold, and every document is such a value. -/
theorem written_forms_read_back :
    (∀ n : Node, n.FloatsFinite → Node.ofJson? n.toJson = some n) ∧
    (∀ m : Mutant, m.replacement.FloatsFinite → m.coveringTests.Pairwise (· < ·) →
      Mutant.ofJson? m.toJson = some m) ∧
    (∀ j j' : Json, j.NumbersFit → (Node.ofJson? j).map Node.toJson = some j' →
      (Node.ofJson? j').map Node.toJson = some j') ∧
    ∀ text j, Json.ofDocument? text = some j → j.NumbersFit := by
  refine ⟨Node.ofJson?_toJson, fun m => Mutant.ofJson?_toJson, fun j j' fit written => ?_,
    fun text j => Json.numbersFit_of_ofDocument?⟩
  obtain ⟨n, read, rfl⟩ := Option.map_eq_some_iff.mp written
  rw [Node.ofJson?_toJson n (Node.floatsFinite_of_ofJson? n fit read), Option.map_some]

namespace Sample

def half : Node where
  kind := .binary .plus
  children := [
    { kind := .float (.ofRatio false 1 2), attributes := { line := some 3 } },
    { kind := .other, span := some ⟨6, 9, 3, 3⟩ }]

def halved : Mutant where
  id := "c0ffee"
  operator := "Plus"
  file := "a"
  path := [0, 1]
  replacement := half
  scope := some "A::b"
  coveringTests := ["first", "second"]

/-- A float literal that is written as a whole number, before its kind. -/
def twoText : String := "\x7b\"value\": 2, \"kind\": \"float\", \"children\": []\x7d"

def two : Json := .obj [("value", .int 2), ("kind", .str "float"), ("children", .arr [])]

private theorem floatsFinite_half : half.FloatsFinite := by
  refine Node.everywhere_iff.mpr ⟨nofun, List.forall_mem_cons.mpr ⟨?_, ?_⟩⟩
  · refine Node.everywhere_iff.mpr ⟨fun x float => ?_, nofun⟩
    rw [← Kind.float.inj float]
    decide +kernel
  · exact List.forall_mem_singleton.mpr (Node.everywhere_iff.mpr ⟨nofun, nofun⟩)

end Sample

/-- The literal is written with a double from then on. -/
theorem sample_written_forms_read_back :
    Sample.half.FloatsFinite ∧ Node.ofJson? Sample.half.toJson = some Sample.half ∧
    Mutant.ofJson? Sample.halved.toJson = some Sample.halved ∧
    Json.ofDocument? Sample.twoText = some Sample.two ∧
    ∃ j, j = .obj [("kind", .str "float"), ("value", .real (.ofInt 2))] ∧
      (Node.ofJson? Sample.two).map Node.toJson = some j ∧
      (Node.ofJson? j).map Node.toJson = some j := by
  obtain ⟨nodes, mutants, final, documents⟩ := written_forms_read_back
  have finite := Sample.floatsFinite_half
  have read : Json.ofDocument? Sample.twoText = some Sample.two := by decide +kernel
  have written : (Node.ofJson? Sample.two).map Node.toJson =
      some (.obj [("kind", .str "float"), ("value", .real (.ofInt 2))]) := by decide +kernel
  have fit := documents Sample.twoText Sample.two read
  exact ⟨finite, nodes Sample.half finite, mutants Sample.halved finite (by decide), read, _, rfl,
    written, final Sample.two _ fit written⟩

end MutationTesting
