import MutationTesting.Source.File
import MutationTesting.Json.Parser
import MutationTesting.Text.Quoted
import MutationTesting.Disk.Basic

/-! Source files read from a disk.

A document gives the path, the text and the tree of a file. Where it leaves the text out, the text
is in the file it names, seen from the folder of the document. -/
namespace MutationTesting

inductive SourceLoadError where
  | unreadable (document : Location) (cause : DiskFailure)
  | malformed (document : Location)
  | textUnreadable (path : Location) (cause : DiskFailure)
deriving DecidableEq

def SourceLoadError.message : SourceLoadError → String
  | unreadable document _ => "Failed to read AST from " ++ Text.quoted document
  | malformed document => "Failed to parse AST from " ++ Text.quoted document
  | textUnreadable path _ => "Failed to read source from " ++ Text.quoted path

namespace SourceFile

/-- Where the text of a file is, seen from its document. -/
def textLocation (f : SourceFile) (document : Location) : Location :=
  match Location.parent? document with
  | some folder => Location.join folder f.path
  | none => f.path

/-- The file with the text that its path names, where the document gave none. -/
def withText (f : SourceFile) (d : Disk) (document : Location) :
    Except SourceLoadError SourceFile :=
  if f.text.isEmpty then
    let path := f.textLocation document
    match d.readText path with
    | .ok text => .ok { f with text }
    | .error e => .error (.textUnreadable path e)
  else .ok f

def load (d : Disk) (document : Location) : Except SourceLoadError SourceFile :=
  match d.readText document with
  | .error e => .error (.unreadable document e)
  | .ok contents =>
    match (Json.ofDocument? contents).bind ofJson? with
    | none => .error (.malformed document)
    | some f => (f.withText d document).map annotate

end SourceFile
end MutationTesting
