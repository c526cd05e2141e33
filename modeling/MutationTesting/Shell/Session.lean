import MutationTesting.Shell.Syntax
import MutationTesting.Disk.Basic
import MutationTesting.Text.Utf8

/-! A shell at work: its variables, what its descriptors lead to, its time and its disk.

Time passes only where a command waits, and is counted in milliseconds. -/
namespace MutationTesting.Shell

inductive Channel where
  /-- Bytes that somebody collects. -/
  | sink (index : Nat)
  /-- Bytes that somebody has written. -/
  | source (index : Nat)
  | discard
  /-- The end of a file. -/
  | file (path : Location)
deriving DecidableEq

structure Stream where
  bytes : List UInt8
  /-- What comes after them, again and again; nothing if it is empty. -/
  cycle : List UInt8 := []

namespace Stream

def isEndless (s : Stream) : Bool := !s.cycle.isEmpty

/-- The bytes, with the endless part `rounds` times. -/
def unrolled (s : Stream) (rounds : Nat) : List UInt8 :=
  s.bytes ++ (List.replicate rounds s.cycle).flatten

end Stream

/-- What has been written, each piece with its time, the last one first. -/
structure Sink where
  pieces : List (Nat × List UInt8) := []
  /-- What is written again and again after that. -/
  cycle : List UInt8 := []

def Sink.stream (s : Sink) : Stream :=
  { bytes := (s.pieces.reverse.mergeSort fun a b => a.1 ≤ b.1).flatMap Prod.snd, cycle := s.cycle }

/-- What comes after the command that has just run. -/
inductive Flow where
  | next
  /-- The end of so many loops. -/
  | leave (loops : Nat)
  /-- The next round of a loop, after the end of so many inside it. -/
  | again (loops : Nat)
  /-- The end of a function or of a text that is read from a file. -/
  | back
  | exit
  | killed (signal : Nat)
  /-- Nothing: the shell does not come to an end. -/
  | stuck
deriving DecidableEq

structure Background where
  /-- When all of it is done. -/
  doneAt : Nat := 0
  /-- When all that holds the output of the shell is done. -/
  silentAt : Nat := 0
  /-- Status of the last command. -/
  status : Nat := 0
  /-- The signal that ended it. -/
  signal : Option Nat := none

structure Session where
  /-- Name of the shell in its messages. -/
  name : String := "sh"
  /-- The command that runs a text in place of the shell, as messages name it. -/
  within : Option String := none
  /-- Number of line ends in the text that is run. -/
  lineEnds : Nat := 0
  /-- The line of the command that runs. -/
  line : Nat := 1
  bindings : List (String × String)
  exported : List String
  /-- Variables that cannot be set. -/
  constants : List String := []
  /-- Variables of the function that runs, with their values outside; none outside of functions. -/
  shadowed : Option (List (String × Option String)) := none
  functions : List (String × Command) := []
  /-- Functions that run inside each other. -/
  depth : Nat := 0
  arguments : List String := []
  /-- What is done when a signal comes; zero stands for the end of the shell. -/
  traps : List (Nat × String) := []
  /-- Signals that have come and are trapped. -/
  arrived : List Nat := []
  status : Nat := 0
  /-- Status of the last command whose output was used in a word. -/
  outputStatus : Option Nat := none
  disk : Disk
  /-- Files that may be run as commands. -/
  runnable : List Place := []
  descriptors : List (Nat × Channel) := [(0, .source 0), (1, .sink 0), (2, .sink 1)]
  sinks : List Sink := [{}, {}]
  sources : List Stream := [{ bytes := [] }]
  clock : Nat := 0
  background : Background := {}
  flow : Flow := .next
  stopsOnFailure : Bool := false
  stopsOnUnset : Bool := false
  /-- Every command is shown before it runs. -/
  isTraced : Bool := false
  /-- A failure is being asked for. -/
  isTested : Bool := false

abbrev Run := StateM Session

namespace Session

def value? (s : Session) (name : String) : Option String := s.bindings.lookup name

def setVariable (s : Session) (name value : String) : Session :=
  { s with bindings := (name, value) :: s.bindings.filter fun v => v.1 != name }

def unsetVariable (s : Session) (name : String) : Session :=
  { s with
    bindings := s.bindings.filter fun v => v.1 != name
    exported := s.exported.filter fun n => n != name }

def restore (s : Session) (name : String) : Option String → Session
  | some value => s.setVariable name value
  | none => s.unsetVariable name

def markExported (s : Session) (name : String) : Session :=
  if s.exported.contains name then s else { s with exported := name :: s.exported }

def setDescriptor (s : Session) (n : Nat) (c : Channel) : Session :=
  { s with descriptors := (n, c) :: s.descriptors.filter fun d => d.1 != n }

def appendFile (s : Session) (path : Location) (bytes : List UInt8) : Session :=
  let old := (s.disk.readText path).toOption.getD ""
  match s.disk.writeText path (old ++ Text.ofBytes bytes) with
  | .ok disk => { s with disk }
  | .error _ => s

def write (s : Session) (n : Nat) (bytes : List UInt8) : Session :=
  match s.descriptors.lookup n with
  | some (.sink i) =>
    { s with sinks := s.sinks.modify i fun k => { k with pieces := (s.clock, bytes) :: k.pieces } }
  | some (.file path) => s.appendFile path bytes
  | _ => s

/-- Writes without an end. Only a reader that wants no more than a part lets the shell go on. -/
def writeForever (s : Session) (cycle : List UInt8) : Session :=
  match s.descriptors.lookup 1 with
  | some (.sink i) =>
    if i < 2 then { s with flow := .stuck }
    else { s with sinks := s.sinks.modify i fun k => { k with cycle } }
  | _ => { s with flow := .stuck }

def collected (s : Session) (i : Nat) : Stream := (s.sinks.getD i {}).stream

def addSink (s : Session) : Nat × Session := (s.sinks.length, { s with sinks := s.sinks ++ [{}] })

def addSource (s : Session) (stream : Stream) : Nat × Session :=
  (s.sources.length, { s with sources := s.sources ++ [stream] })

/-- Whether some descriptor keeps the output of the outermost shell open. -/
def holdsOutput (s : Session) : Bool :=
  s.descriptors.any fun d => d.2 == .sink 0 || d.2 == .sink 1

/-- A session goes on after another began from it and came to an end: variables and the like are as
they were, time and disk are not. -/
def resume (before after : Session) : Session :=
  { before with
    status := after.status
    disk := { after.disk with current := before.disk.current }
    runnable := after.runnable
    sinks := after.sinks
    sources := after.sources
    clock := after.clock
    background := after.background
    flow := match after.flow with
      | .killed signal => .killed signal
      | .stuck => .stuck
      | _ => before.flow }

end Session

def setStatus (n : Nat) : Run Unit := modify fun s => { s with status := n }

def setFlow (f : Flow) : Run Unit := modify fun s => { s with flow := f }

def say (text : String) : Run Unit := modify fun s => s.write 1 (Text.toBytes text)

def complain (text : String) : Run Unit := modify fun s => s.write 2 (Text.toBytes (text ++ "\n"))

/-- A message of the shell, with the line it is about. -/
def complainAt (text : String) : Run Unit := do
  let s ← get
  complain (s.name ++ ": " ++ toString s.line ++ ": " ++ text)

def complainAsShell (text : String) : Run Unit := do
  match (← get).within with
  | some command => complainAt (command ++ ": " ++ text)
  | none => complainAt text

def fail (text : String) : Run Unit := do
  complainAsShell text
  modify fun s => { s with status := 2, flow := .exit }

/-- A failure of a command that is part of the shell, which ends the shell. -/
def failAt (text : String) : Run Nat := do
  complainAt text
  setFlow .exit
  return 2

def inputStream : Run Stream := do
  let s ← get
  match s.descriptors.lookup 0 with
  | some (.source i) => return s.sources.getD i { bytes := [] }
  | _ => return { bytes := [] }

/-- Leaves something of the input for later. -/
def leaveInput (stream : Stream) : Run Unit := modify fun s =>
  match s.descriptors.lookup 0 with
  | some (.source i) => { s with sources := s.sources.set i stream }
  | _ => s

def readInput : Run (List UInt8) := do
  let stream ← inputStream
  leaveInput { bytes := [] }
  if stream.isEndless then setFlow .stuck
  return stream.bytes

/-- The next line of the input, without its end; what is left if no line ends. -/
def readLine : Run (List UInt8 × Bool) := do
  let stream ← inputStream
  let bytes := stream.unrolled 1
  let line := bytes.takeWhile (· ≠ 10)
  leaveInput { stream with bytes := bytes.drop (line.length + 1) }
  return (line, decide (line.length < bytes.length))

/-- The contents of a file; a dash stands for the input. -/
def openFile (path : String) : Run (Except DiskFailure Stream) := do
  match path with
  | "-" | "/dev/stdin" =>
    let stream ← inputStream
    leaveInput { bytes := [] }
    return .ok stream
  | "/dev/null" => return .ok { bytes := [] }
  | "/dev/zero" => return .ok { bytes := [], cycle := [0] }
  | _ =>
    return ((← get).disk.readText path).map fun text => { bytes := Text.toBytes text }

/-- Runs something whose variables, directory and end do not matter outside. -/
def isolated (body : Run Unit) : Run Unit := do
  let before ← get
  body
  modify before.resume

end MutationTesting.Shell
