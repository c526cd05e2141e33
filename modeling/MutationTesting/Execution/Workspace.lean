import MutationTesting.Execution.Adapter
import MutationTesting.Execution.Classify
import MutationTesting.Execution.Patch
import MutationTesting.Text.Quoted

/-! Workspaces: a fresh folder for every try, with a copy of the project and the changed file. -/
namespace MutationTesting

inductive CopyFailure where
  | missing (folder : Location)
  | notFolder (folder : Location)
  | disk (cause : DiskFailure)
deriving DecidableEq

def CopyFailure.message : CopyFailure → String
  | missing folder => "Path \"" ++ folder ++ "\" does not exist or you don't have access!"
  | notFolder folder => "Path \"" ++ folder ++ "\" is not a directory!"
  | disk cause => cause.message

inductive WorkspaceError where
  | rootNotMade (root : Location) (cause : DiskFailure)
  | notMade (root : Location) (cause : DiskFailure)
  | projectNotCopied (project : Location) (cause : CopyFailure)
  | notPatched (file : Location) (path : Path) (cause : ShapeError)
  | folderNotMade (folder : Location) (cause : DiskFailure)
  | notWritten (file : Location) (cause : DiskFailure)
deriving DecidableEq

namespace WorkspaceError

def context : WorkspaceError → String
  | rootNotMade root _ => "Failed to create workspace root " ++ Text.quoted root
  | notMade root _ => "Failed to create workspace in " ++ Text.quoted root
  | projectNotCopied project _ => "Failed to copy project " ++ Text.quoted project
  | notPatched file path _ => "Failed to patch " ++ file ++ " at " ++ path.text
  | folderNotMade folder _ => "Failed to create " ++ Text.quoted folder
  | notWritten file _ => "Failed to write mutated file " ++ Text.quoted file

def cause : WorkspaceError → String
  | rootNotMade _ c | notMade _ c | folderNotMade _ c | notWritten _ c => c.message
  | projectNotCopied _ c => c.message
  | notPatched _ _ c => c.message

def message (e : WorkspaceError) : String := e.context ++ ": " ++ e.cause

end WorkspaceError

namespace Disk

def copyContents (d : Disk) (source target : Location) : Except CopyFailure Disk :=
  if !d.exists? source then .error (.missing source)
  else if !d.isFolder source then .error (.notFolder source)
  else do
    let p ← (d.resolve source).mapError .disk
    let q ← (d.resolve target).mapError .disk
    return (d.below p).foldl (fun d e => d.store (q ++ e.1) e.2) d

/-- Writes a file, and makes the folders above it that are missing. -/
def place (d : Disk) (file : Location) (text : String) : Except WorkspaceError Disk := do
  let d ←
    match Location.parent? file with
    | some folder => (d.makeFolders folder).mapError (.folderNotMade folder)
    | none => .ok d
  (d.writeText file text).mapError (.notWritten file)

end Disk

namespace Workspace

def serial (n : Nat) : String :=
  let ds := (toString n).toList
  String.ofList (List.replicate (6 - ds.length) '0' ++ ds)

def name (slot n : Nat) : String := "infest-" ++ toString slot ++ "-" ++ serial n

/-- The first name of a slot that is not taken in a folder. -/
def freshName (d : Disk) (root : Place) (slot : Nat) : String :=
  let names := (List.range (d.entries.length + 1)).map (name slot)
  (names.find? fun x => (d.entry? (root ++ [x])).isNone).getD (name slot 0)

/-- Makes an empty workspace, and the folder for workspaces if it is missing. -/
def makeEmpty (root : Location) (slot : Nat) (d : Disk) : Except WorkspaceError (Location × Disk) := do
  let d ← (d.makeFolders root).mapError (.rootNotMade root)
  let p ← (d.resolve root).mapError (.notMade root)
  let workspace := Location.join (d.absolute root) (freshName d p slot)
  return (workspace, ← (d.makeFolder workspace).mapError (.notMade root))

def furnish (s : ExecutionSettings) (workspace : Location) (d : Disk) :
    Except WorkspaceError Disk :=
  match s.projectRoot with
  | none => .ok d
  | some project => (d.copyContents project workspace).mapError (.projectNotCopied project)

def make (s : ExecutionSettings) (slot : Nat) (d : Disk) :
    Except WorkspaceError (Location × Disk) := do
  let (workspace, d) ← makeEmpty s.workspaceRoot slot d
  return (workspace, ← furnish s workspace d)

/-- Where a source file belongs in a workspace. An absolute location keeps its last name only. -/
def locate (workspace file : Location) : Location :=
  if Location.isAbsolute file then
    Location.join workspace ((Location.fileName? file).getD "source")
  else Location.join workspace file

/-- Writes the changed source of a mutant into a workspace. -/
def placeMutant (style : PrintStyle) (source : SourceFile) (m : Mutant) (workspace : Location)
    (d : Disk) : Except WorkspaceError (Location × Disk) := do
  let text ← (patchSource style source m.path m.replacement).mapError
    (.notPatched source.path m.path)
  let artifact := locate workspace m.file
  return (artifact, ← d.place artifact text)

end Workspace
end MutationTesting
