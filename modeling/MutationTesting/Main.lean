import MutationTesting.CommandLine.Program

/-! The command line. The program works on a picture of the current folder and of the files that its
arguments name; what it has changed there is then changed on the machine. -/
namespace MutationTesting.CommandLine

def maxDepth : Nat := 64

def withFile (d : Disk) (path : Location) : IO Disk := do
  try
    let text ← IO.FS.readFile path
    let folder := (Location.parent? path).getD ""
    let d := (d.makeFolders folder).toOption.getD d
    return (d.writeText path text).toOption.getD d
  catch _ => return d

def withFolder (path : Location) : (depth : Nat) → Disk → IO Disk
  | 0, d => return d
  | depth + 1, d => do
    let mut d := (d.makeFolders path).toOption.getD d
    for entry in ← (← IO.FS.realPath path).readDir do
      let inner := Location.join path entry.fileName
      if ← entry.path.isDir then d ← withFolder inner depth d
      else d ← withFile d inner
    return d

def writeEntry (e : Place × DiskEntry) : IO Unit := do
  let path := "/" ++ "/".intercalate e.1
  match e.2 with
  | .folder => IO.FS.createDirAll path
  | .file text => IO.FS.writeFile path text

/-- Does on the machine what has been done on a disk. -/
def writeChanges (before after : Disk) : IO Unit := do
  for e in before.entries do
    if let .file _ := e.2 then
      if (after.entry? e.1).isNone then IO.FS.removeFile ("/" ++ "/".intercalate e.1)
  for e in after.entries do
    if before.entry? e.1 != some e.2 then writeEntry e

def defaultWorkers : Nat := 4

end MutationTesting.CommandLine

open MutationTesting CommandLine

def main (args : List String) : IO UInt32 := do
  let current := toString (← IO.currentDir)
  let here : Surroundings := {
    home := (← IO.getEnv "HOME").getD current
    tempDir := (← IO.getEnv "TMPDIR").getD "/tmp"
    machine := defaultWorkers }
  let place := ((Location.pieces current).filter fun p => p != "")
  let start ← withFolder current maxDepth {}
  let start := { start with current := place }
  let before ← (Config.defaultLocation here.home :: args).foldlM withFile start
  let ending := runProgram here args before
  IO.print ending.output
  if let some text := ending.complaint then IO.eprintln text
  writeChanges before ending.disk
  return ending.code.toUInt32
