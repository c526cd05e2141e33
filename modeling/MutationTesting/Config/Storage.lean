import MutationTesting.Config.Format
import MutationTesting.Disk.Basic
import MutationTesting.Text.Quoted
import MutationTesting.Toml.Parser
import MutationTesting.Toml.Writer

/-! Configurations kept in files. -/
namespace MutationTesting

inductive ConfigFileError where
  | unreadable (path : Location) (cause : DiskFailure)
  | malformed (path : Location)
  | folderNotMade (path : Location) (cause : DiskFailure)
  | unwritable (path : Location) (cause : DiskFailure)
deriving DecidableEq

def ConfigFileError.message : ConfigFileError → String
  | unreadable path _ => "Failed to read config from " ++ Text.quoted path
  | malformed path => "Failed to parse config from " ++ Text.quoted path
  | folderNotMade path _ => "Failed to create config directory: " ++ Text.quoted path
  | unwritable path _ => "Failed to write config to " ++ Text.quoted path

namespace Config

def fileName : String := "infest.toml"

def defaultLocation (home : Location) : Location :=
  Location.join home (".config/infest/" ++ fileName)

/-- Where a configuration is looked for: where the caller says, in the current folder, in the
user's home. -/
def locate (d : Disk) (home : Location) (path : Option Location) : Location :=
  match path with
  | some path => path
  | none => if d.exists? fileName then fileName else defaultLocation home

/-- Reads a document; settings it leaves out have their defaults. -/
def ofText? (text : String) : Option Config := (Toml.parse? text).bind ofJson?

def text (c : Config) : String := Toml.write c.toJson

/-- Reads the configuration; without a file every setting has its default. -/
def load (d : Disk) (home : Location) (path : Option Location) : Except ConfigFileError Config :=
  let path := locate d home path
  if d.exists? path then
    match d.readText path with
    | .error e => .error (.unreadable path e)
    | .ok text =>
      match ofText? text with
      | some c => .ok c
      | none => .error (.malformed path)
  else .ok {}

def makeParents (d : Disk) (path : Location) : Except ConfigFileError Disk :=
  match Location.parent? path with
  | some parent =>
    if parent.isEmpty then .ok d else (d.makeFolders parent).mapError (.folderNotMade parent)
  | none => .ok d

def save (c : Config) (d : Disk) (path : Location) : Except ConfigFileError Disk := do
  let d ← makeParents d path
  (d.writeText path c.text).mapError (.unwritable path)

end Config
end MutationTesting
