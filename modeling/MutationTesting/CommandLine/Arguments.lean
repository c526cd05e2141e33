import MutationTesting.Disk.Location

/-! Arguments of the command line.

Options stand behind the command they belong to, in any order; the configuration may also be named
in front of it. Reading stops at the first argument that asks for help or the version, or that is
wrong. A value is only looked at when the next option begins or nothing is left. -/
namespace MutationTesting.CommandLine

inductive Verb where
  | run
  | init
  | list
deriving DecidableEq

def Verb.all : List Verb := [.run, .init, .list]

def Verb.word : Verb → String
  | run => "run"
  | init => "init"
  | list => "list"

def Verb.ofWord? (w : String) : Option Verb := all.find? fun v => v.word == w

inductive Switch where
  | ast
  | coverage
  | json
  | force
  | config
  | help
  | version
deriving DecidableEq

namespace Switch

def word : Switch → String
  | ast => "ast"
  | coverage => "coverage"
  | json => "json"
  | force => "force"
  | config => "config"
  | help => "help"
  | version => "version"

def letter? : Switch → Option Char
  | config => some 'c'
  | help => some 'h'
  | version => some 'V'
  | _ => none

def takesValue : Switch → Bool
  | force | help | version => false
  | _ => true

def takesMany : Switch → Bool
  | ast => true
  | _ => false

/-- The options that can be given in front of a command, or behind one. -/
def choices : Option Verb → List Switch
  | none => [config, help, version]
  | some .run => [ast, coverage, json, config, help]
  | some .init => [force, config, help]
  | some .list => [ast, coverage, config, help]

def ofWord? (place : Option Verb) (w : String) : Option Switch :=
  (choices place).find? fun s => s.word == w

def ofLetter? (place : Option Verb) (c : Char) : Option Switch :=
  (choices place).find? fun s => s.letter? == some c

end Switch

inductive ArgumentError where
  | unexpected (argument : String)
  | withoutValue (s : Switch)
  | emptyValue (s : Switch)
  | unwantedValue (s : Switch) (value : String)
  | repeated (s : Switch)
  | missing (s : Switch)
  | noCommand
  | unknownCommand (name : String)
deriving DecidableEq

def ArgumentError.message : ArgumentError → String
  | unexpected argument => "unexpected argument '" ++ argument ++ "' found"
  | withoutValue s => "a value is required for '--" ++ s.word ++ "' but none was supplied"
  | emptyValue s => "a value is required for '--" ++ s.word ++ "' but it is empty"
  | unwantedValue s value => "unexpected value '" ++ value ++ "' for '--" ++ s.word ++ "' found"
  | repeated s => "the argument '--" ++ s.word ++ "' cannot be used multiple times"
  | missing s => "the argument '--" ++ s.word ++ "' was not provided"
  | noCommand => "a command is required but none was provided"
  | unknownCommand name => "unrecognized command '" ++ name ++ "'"

/-- Why there is no command to be carried out. -/
inductive Stop where
  | wrong (e : ArgumentError)
  /-- Help on the program or on one command. -/
  | help (topic : Option Verb)
  | version
deriving DecidableEq

structure Scan where
  /-- Options that are complete, with their values. -/
  given : List (Switch × List String) := []
  /-- The option whose values are being read. -/
  pending : Option (Switch × List String) := none
  /-- The next argument is a value, unless it is an option. -/
  isOpen : Bool := false
deriving DecidableEq

namespace Scan

def isGiven (s : Scan) (w : Switch) : Bool := s.given.any fun g => g.1 == w

def values (s : Scan) (w : Switch) : List String :=
  (s.given.filter fun g => g.1 == w).flatMap Prod.snd

def value? (s : Scan) (w : Switch) : Option String := (s.values w).head?

/-- Completes the option whose values have been read. -/
def settle (s : Scan) : Except Stop Scan :=
  match s.pending with
  | none => .ok s
  | some (w, values) =>
    if values.isEmpty then .error (.wrong (.withoutValue w))
    else if !w.takesMany && s.isGiven w then .error (.wrong (.repeated w))
    else if values.contains "" then .error (.wrong (.emptyValue w))
    else .ok { given := s.given ++ [(w, values)] }

def flag (place : Option Verb) (s : Scan) (w : Switch) : Except Stop Scan := do
  let s ← s.settle
  match w with
  | .help => throw (.help place)
  | .version => throw .version
  | w =>
    if s.isGiven w then throw (.wrong (.repeated w))
    else return { s with given := s.given ++ [(w, [])] }

def option (s : Scan) (w : Switch) (attached : Option String) : Except Stop Scan := do
  let s ← s.settle
  match attached with
  | some value => settle { s with pending := some (w, [value]) }
  | none => return { s with pending := some (w, []), isOpen := true }

def plain (s : Scan) (argument : String) : Except Stop Scan :=
  match s.pending with
  | some (w, values) =>
    if s.isOpen then
      .ok { s with pending := some (w, values ++ [argument]), isOpen := w.takesMany }
    else .error (.wrong (.unexpected argument))
  | none => .error (.wrong (.unexpected argument))

/-- Takes an option by its name, with what follows an equals sign as its value. -/
def long (place : Option Verb) (s : Scan) (text : List Char) : Except Stop Scan :=
  let name := text.takeWhile (· ≠ '=')
  let attached := match text.drop name.length with
    | _ :: value => some (String.ofList value)
    | [] => none
  match Switch.ofWord? place (String.ofList name) with
  | none => .error (.wrong (.unexpected (String.ofList ('-' :: '-' :: text))))
  | some w =>
    if w.takesValue then s.option w attached
    else
      match attached with
      | some value => .error (.wrong (.unwantedValue w value))
      | none => s.flag place w

/-- Takes options by their letters. What follows a letter whose option has a value is that value,
without an equals sign in front. -/
def short (place : Option Verb) (s : Scan) : List Char → Except Stop Scan
  | [] => .ok s
  | c :: cs =>
    match Switch.ofLetter? place c with
    | none => .error (.wrong (.unexpected (String.ofList ['-', c])))
    | some w =>
      if w.takesValue then
        match cs with
        | [] => s.option w none
        | '=' :: value => s.option w (some (String.ofList value))
        | value => s.option w (some (String.ofList value))
      else do short place (← s.flag place w) cs

/-- Takes the next argument. A lone dash is no option. -/
def read (place : Option Verb) (s : Scan) (argument : String) : Except Stop Scan :=
  match argument.toList with
  | '-' :: '-' :: text => s.long place text
  | '-' :: c :: cs => s.short place (c :: cs)
  | _ => s.plain argument

def readAll (place : Option Verb) : Scan → List String → Except Stop Scan
  | s, [] => s.settle
  | s, argument :: rest =>
    if argument = "--" then
      match rest with
      | [] => s.settle
      | next :: _ => .error (.wrong (.unexpected next))
    else do readAll place (← s.read place argument) rest

end Scan

inductive Task where
  /-- Try all mutants of some sources, and write the report to `json`. -/
  | run (sources : List Location) (coverage json : Option Location)
  /-- Write the default configuration. -/
  | init (force : Bool)
  /-- List all mutants of some sources. -/
  | list (sources : List Location) (coverage : Option Location)
deriving DecidableEq

structure Invocation where
  config : Option Location
  task : Task
deriving DecidableEq

def Task.ofScan (s : Scan) : Verb → Except Stop Task
  | .init => .ok (.init (s.isGiven .force))
  | .run =>
    if s.isGiven .ast then .ok (.run (s.values .ast) (s.value? .coverage) (s.value? .json))
    else .error (.wrong (.missing .ast))
  | .list =>
    if s.isGiven .ast then .ok (.list (s.values .ast) (s.value? .coverage))
    else .error (.wrong (.missing .ast))

def helpTopic : List String → Stop
  | [] => .help none
  | name :: rest =>
    match Verb.ofWord? name, rest with
    | some verb, [] => .help (some verb)
    | some _, next :: _ => .wrong (.unknownCommand next)
    | none, _ => if name = "help" then .help none else .wrong (.unknownCommand name)

/-- Reads on behind a command. The configuration named there counts more than the one in front,
which is only completed after all that follows. -/
def readCommand (front : Scan) (verb : Verb) (rest : List String) : Except Stop Invocation := do
  let behind ← Scan.readAll (some verb) {} rest
  let task ← Task.ofScan behind verb
  let front ← front.settle
  return { config := (behind.value? .config).or (front.value? .config), task }

def readFront : Scan → List String → Except Stop Invocation
  | s, [] => do
    discard s.settle
    throw (.wrong .noCommand)
  | s, argument :: rest =>
    if s.isOpen then do readFront (← s.read none argument) rest
    else if argument = "help" then .error (helpTopic rest)
    else
      match Verb.ofWord? argument with
      | some verb => readCommand s verb rest
      | none =>
        if argument = "--" then .error (.wrong .noCommand)
        else do readFront (← s.read none argument) rest

def Invocation.ofArguments (args : List String) : Except Stop Invocation := readFront {} args

end MutationTesting.CommandLine
