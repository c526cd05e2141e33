import MutationTesting.Disk.Location

/-! A file system: folders and text files, and the faults of working with them.

A place is the list of names that leads to it from the root. The root is always a folder; every
other folder is listed on its own. -/
namespace MutationTesting

abbrev Place := List String

inductive DiskEntry where
  | folder
  | file (text : String)
deriving DecidableEq, Inhabited

inductive DiskFailure where
  | notFound
  | alreadyExists
  | notDirectory
  | isDirectory
  | nameTooLong
  | zeroCharacter
deriving DecidableEq

def DiskFailure.message : DiskFailure → String
  | notFound => "No such file or directory (os error 2)"
  | alreadyExists => "File exists (os error 17)"
  | notDirectory => "Not a directory (os error 20)"
  | isDirectory => "Is a directory (os error 21)"
  | nameTooLong => "File name too long (os error 36)"
  | zeroCharacter => "file name contained an unexpected NUL byte"

/-- What is stored, and the folder from which relative locations start. -/
structure Disk where
  entries : List (Place × DiskEntry) := []
  current : Place := []
deriving Inhabited

namespace Disk

def entry? (d : Disk) (p : Place) : Option DiskEntry :=
  if p.isEmpty then some .folder else (d.entries.find? fun e => e.1 == p).map Prod.snd

def store (d : Disk) (p : Place) (e : DiskEntry) : Disk :=
  if d.entries.any fun x => x.1 == p then
    { d with entries := d.entries.map fun x => if x.1 == p then (p, e) else x }
  else { d with entries := d.entries ++ [(p, e)] }

def remove (d : Disk) (p : Place) : Disk :=
  { d with entries := d.entries.filter fun e => !p.isPrefixOf e.1 }

def requireFolder (d : Disk) (p : Place) : Except DiskFailure Unit :=
  match d.entry? p with
  | some .folder => .ok ()
  | some (.file _) => .error .notDirectory
  | none => .error .notFound

def maxNameBytes : Nat := 255

/-- Follows the pieces of a location. Every piece but the last must lead to a folder; what the last
one leads to need not exist. -/
def follow (d : Disk) (p : Place) : List String → Except DiskFailure Place
  | [] => .ok p
  | piece :: rest => do
    if piece.isEmpty && rest.isEmpty && (d.entry? p).isNone then return p
    d.requireFolder p
    if piece = "" ∨ piece = "." then d.follow p rest
    else if piece = ".." then d.follow p.dropLast rest
    else if maxNameBytes < piece.utf8ByteSize then .error .nameTooLong
    else d.follow (p ++ [piece]) rest

def resolve (d : Disk) (l : Location) : Except DiskFailure Place :=
  if l.isEmpty then .error .notFound
  else if l.toList.contains '\x00' then .error .zeroCharacter
  else d.follow (if Location.isAbsolute l then [] else d.current) (Location.pieces l)

def exists? (d : Disk) (l : Location) : Bool :=
  match d.resolve l with
  | .ok p => (d.entry? p).isSome
  | .error _ => false

def isFolder (d : Disk) (l : Location) : Bool :=
  match d.resolve l with
  | .ok p => d.entry? p == some .folder
  | .error _ => false

def readText (d : Disk) (l : Location) : Except DiskFailure String := do
  match d.entry? (← d.resolve l) with
  | some (.file text) => .ok text
  | some .folder => .error .isDirectory
  | none => .error .notFound

def makeFolder (d : Disk) (l : Location) : Except DiskFailure Disk := do
  let p ← d.resolve l
  match d.entry? p with
  | some _ => .error .alreadyExists
  | none =>
    d.requireFolder p.dropLast
    return d.store p .folder

/-- Makes a folder and those above it that are missing. A location has at most `depth` parents. -/
def makeFoldersUpTo (l : Location) : (depth : Nat) → Disk → Except DiskFailure Disk
  | depth, d =>
    if l.isEmpty then .ok d
    else
      match d.makeFolder l with
      | .ok d => .ok d
      | .error .notFound =>
        match depth, Location.parent? l with
        | depth + 1, some parent => do
          let d ← makeFoldersUpTo parent depth d
          match d.makeFolder l with
          | .ok d => .ok d
          | .error e => if d.isFolder l then .ok d else .error e
        | _, _ => .error .notFound
      | .error e => if d.isFolder l then .ok d else .error e

def makeFolders (d : Disk) (l : Location) : Except DiskFailure Disk :=
  makeFoldersUpTo l l.length d

/-- Writes a file, in place of one that is there. -/
def writeText (d : Disk) (l : Location) (text : String) : Except DiskFailure Disk := do
  let p ← d.resolve l
  match d.entry? p with
  | some .folder => .error .isDirectory
  | some (.file _) => return d.store p (.file text)
  | none =>
    if (Location.pieces l).getLast? == some "" then .error .isDirectory
    else
      d.requireFolder p.dropLast
      return d.store p (.file text)

/-- Removes what a location names, if it names anything. -/
def removeAt (d : Disk) (l : Location) : Disk :=
  match d.resolve l with
  | .ok p => d.remove p
  | .error _ => d

def absolute (d : Disk) (l : Location) : Location :=
  Location.join ("/" ++ "/".intercalate d.current) l

/-- The entries below a place, by the names that lead to them from there. -/
def below (d : Disk) (p : Place) : List (Place × DiskEntry) :=
  d.entries.filterMap fun e =>
    if p.isPrefixOf e.1 && p.length < e.1.length then some (e.1.drop p.length, e.2) else none

end Disk
end MutationTesting
