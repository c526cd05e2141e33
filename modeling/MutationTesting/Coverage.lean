import MutationTesting.Json.Parser
import MutationTesting.Ordered
import MutationTesting.Disk.Basic

/-! Line coverage: which tests execute which lines of which files.

The index is a table of files, each a table of lines, each a set of test identifiers. A file or a
line may be listed without any test. -/
namespace MutationTesting

abbrev TestId := String

abbrev LineTests := List (Nat × List TestId)

structure Coverage where
  files : List (String × LineTests) := []
deriving DecidableEq, Inhabited

inductive CoverageError where
  | unreadable (path : Location) (cause : DiskFailure)
  | malformed
  | zeroLine (file : String)
deriving DecidableEq

def CoverageError.message : CoverageError → String
  | unreadable path cause => "failed to read coverage data from " ++ path ++ ": " ++ cause.message
  | malformed => "malformed coverage data"
  | zeroLine file => "line 0 is not a valid line in " ++ file

namespace Coverage

def insert (c : Coverage) (file : String) (line : Nat) (test : TestId) : Coverage :=
  let lines := (Ordered.find? file c.files).getD []
  let tests := (Ordered.find? line lines).getD []
  ⟨Ordered.put file (Ordered.put line (Ordered.insert test tests) lines) c.files⟩

/-- The tests that execute any line from `start` to `stop`, both included. -/
def testsForLines (c : Coverage) (file : String) (start stop : Nat) : List TestId :=
  match Ordered.find? file c.files with
  | none => []
  | some lines =>
    if stop < start then []
    else Ordered.ofList ((lines.filter fun l => start ≤ l.1 && l.1 ≤ stop).flatMap Prod.snd)

def testsForLine (c : Coverage) (file : String) (line : Nat) : List TestId :=
  c.testsForLines file line line

def allTests (c : Coverage) : List TestId :=
  Ordered.ofList (c.files.flatMap fun f => f.2.flatMap Prod.snd)

def isEmpty (c : Coverage) : Bool := c.files.isEmpty

/-- A line number as the key of a document: the digits of a whole number, nothing around them. -/
def lineKey? (key : String) : Option Nat :=
  match Json.number? key.toList with
  | some (.int n, []) => if 0 ≤ n then some n.toNat else none
  | _ => none

def lineEntry? (f : String × Json) : Option (Nat × List TestId) := do
  let line ← lineKey? f.1
  let tests ← Json.asList? Json.asString? f.2
  some (line, Ordered.ofList tests)

def fileEntry? (f : String × Json) : Option (String × LineTests) :=
  match f.2 with
  | .obj fields => (fields.mapM lineEntry?).map fun lines => (f.1, Ordered.tableOfList lines)
  | _ => none

/-- Reads a document; a repeated file or line replaces the earlier one. -/
def ofValue? : Json → Option Coverage
  | .obj fields => (fields.mapM fileEntry?).map fun files => ⟨Ordered.tableOfList files⟩
  | _ => none

def zeroLine? (c : Coverage) : Option String :=
  (c.files.find? fun f => (Ordered.find? 0 f.2).isSome).map Prod.fst

/-- No string at a level of nesting is written with an escape. The flag tells whether the text
starts within a string. -/
def plainAt (level : Nat) : (depth : Nat) → (quoted : Bool) → List Char → Bool
  | depth, true, '\\' :: _ :: cs => depth ≠ level && plainAt level depth true cs
  | depth, true, c :: cs => plainAt level depth (c ≠ '"') cs
  | depth, false, c :: cs =>
    if c = '{' ∨ c = '[' then plainAt level (depth + 1) false cs
    else if c = '}' ∨ c = ']' then plainAt level (depth - 1) false cs
    else plainAt level depth (c = '"') cs
  | _, _, [] => true

/-- Reads the text of a document. A line number is read as it is written, without undoing escapes:
these are the strings within two braces. -/
def ofText (text : String) : Except CoverageError Coverage :=
  match (Json.ofDocument? text).bind ofValue? with
  | none => .error .malformed
  | some c =>
    if plainAt 2 0 false text.toList then
      match c.zeroLine? with
      | some file => .error (.zeroLine file)
      | none => .ok c
    else .error .malformed

def load (d : Disk) (path : Location) : Except CoverageError Coverage :=
  match d.readText path with
  | .ok text => ofText text
  | .error e => .error (.unreadable path e)

def toJson (c : Coverage) : Json :=
  .obj (c.files.map fun f =>
    (f.1, .obj (f.2.map fun l => (toString l.1, .arr (l.2.map .str)))))

end Coverage
end MutationTesting
