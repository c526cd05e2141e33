import MutationTesting.Mutant.Id
import MutationTesting.Tree.Format
import MutationTesting.Disk.Location
import MutationTesting.Ordered

/-! Mutants: one proposed change to one source file, and the record of it that outlives a run. -/
namespace MutationTesting

structure Mutant where
  id : String
  /-- Name of the operator that proposed it. -/
  operator : String
  file : Location
  /-- Where the replaced node stands. -/
  path : Path
  /-- What stands in its place. -/
  replacement : Node
  line : Option Nat := none
  scope : Option String := none
  /-- Tests known to execute the replaced node: a set in increasing order. -/
  coveringTests : List String := []
deriving Inhabited

structure MutantRecord where
  id : String
  operator : String
  file : Location
  path : Path
  replacement : String
  line : Option Nat := none
  scope : Option String := none
deriving DecidableEq, Inhabited

structure Diagnostic where
  file : Location
  path : Path
  operator : String
  message : String
deriving DecidableEq, Inhabited

/-- Operator and place in a few words: the line if it is known, else the path. -/
def describePlace (operator : String) (file : Location) (line : Option Nat) (path : Path) :
    String :=
  match line with
  | some l => operator ++ " at " ++ file ++ ":" ++ toString l
  | none => operator ++ " at " ++ file ++ " (" ++ path.text ++ ")"

/-- The text of a replacement, or its fault between angle brackets. -/
def replacementText (style : PrintStyle) (source : String) (replacement : Node) : String :=
  match style.printWith source replacement with
  | .ok text => text
  | .error e => "<" ++ e.message ++ ">"

namespace Mutant

def describe (m : Mutant) : String := describePlace m.operator m.file m.line m.path

def record (m : Mutant) (style : PrintStyle) (source : String) : MutantRecord where
  id := m.id
  operator := m.operator
  file := m.file
  path := m.path
  replacement := replacementText style source m.replacement
  line := m.line
  scope := m.scope

def toJson (m : Mutant) : Json :=
  .obj ([("id", .str m.id), ("operator", .str m.operator), ("file", .str m.file),
      ("path", m.path.toJson), ("replacement", m.replacement.toJson)]
    ++ Json.field? "line" .ofNat m.line ++ Json.field? "scope" .str m.scope
    ++ [("covering_tests", .arr (m.coveringTests.map .str))])

def ofJson? (j : Json) : Option Mutant := do
  let slots ← Json.record?
    ["id", "operator", "file", "path", "replacement", "line", "scope", "covering_tests"] j
  match slots with
  | [id, operator, file, path, replacement, line, scope, tests] =>
    some {
      id := ← Json.required Json.asString? id
      operator := ← Json.required Json.asString? operator
      file := ← Json.required Json.asString? file
      path := ← Json.required Path.ofJson? path
      replacement := ← Json.required Node.ofJson? replacement
      line := ← Json.optional Json.asNat? line
      scope := ← Json.optional Json.asString? scope
      coveringTests :=
        Ordered.ofList (← Json.withDefault [] (Json.asList? Json.asString?) tests) }
  | _ => none

end Mutant

namespace MutantRecord

def describe (m : MutantRecord) : String := describePlace m.operator m.file m.line m.path

def toJson (m : MutantRecord) : Json :=
  .obj ([("id", .str m.id), ("operator", .str m.operator), ("file", .str m.file),
      ("path", m.path.toJson), ("replacement", .str m.replacement)]
    ++ Json.field? "line" .ofNat m.line ++ Json.field? "scope" .str m.scope)

def ofJson? (j : Json) : Option MutantRecord := do
  match ← Json.record? ["id", "operator", "file", "path", "replacement", "line", "scope"] j with
  | [id, operator, file, path, replacement, line, scope] =>
    some {
      id := ← Json.required Json.asString? id
      operator := ← Json.required Json.asString? operator
      file := ← Json.required Json.asString? file
      path := ← Json.required Path.ofJson? path
      replacement := ← Json.required Json.asString? replacement
      line := ← Json.optional Json.asNat? line
      scope := ← Json.optional Json.asString? scope }
  | _ => none

end MutantRecord

namespace Diagnostic

def toJson (d : Diagnostic) : Json :=
  .obj [("file", .str d.file), ("path", d.path.toJson), ("operator", .str d.operator),
    ("message", .str d.message)]

def ofJson? (j : Json) : Option Diagnostic := do
  match ← Json.record? ["file", "path", "operator", "message"] j with
  | [file, path, operator, message] =>
    some {
      file := ← Json.required Json.asString? file
      path := ← Json.required Path.ofJson? path
      operator := ← Json.required Json.asString? operator
      message := ← Json.required Json.asString? message }
  | _ => none

end Diagnostic
end MutationTesting
