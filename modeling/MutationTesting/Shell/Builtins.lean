import MutationTesting.Shell.Condition
import MutationTesting.Shell.Files
import MutationTesting.Shell.Quoting
import MutationTesting.Shell.Signal

/-! Commands that change the shell itself or ask about it. -/
namespace MutationTesting.Shell

def ownProcess : String := "4242"

def backgroundProcess : String := "4243"

/-- A signal reaches the shell: it is trapped, or does what it does by itself. -/
def Session.receive (s : Session) (signal : Nat) : Session :=
  match if canTrap signal then s.traps.lookup signal else none with
  | some "" => s
  | some _ => { s with arrived := s.arrived ++ [signal] }
  | none =>
    match signalEffect signal with
    | .ends => { s with flow := .killed signal }
    | .halts => { s with flow := .stuck }
    | .nothing => s

def Session.signalBackground (s : Session) (signal : Nat) : Session :=
  if signalEffect signal = .ends && s.clock < s.background.doneAt then
    { s with background :=
      { doneAt := s.clock, silentAt := s.clock, status := 128 + signal, signal := some signal } }
  else s

def killUsage : String :=
  "kill: Usage: kill [-s sigspec | -signum | -sigspec] [pid | job]... or\nkill -l [exitstatus]"

def sendSignal (signal : Nat) (target : String) : Run Nat := do
  if [ownProcess, "-" ++ ownProcess, "0"].contains target then
    modify fun s => s.receive signal
    return 0
  else if target = backgroundProcess then
    modify fun s => s.signalBackground signal
    return 0
  else if target.toInt?.isSome then
    complainAt "kill: No such process\n"
    return 1
  else
    complainAt ("kill: Illegal number: " ++ target)
    return 2

def kill (args : List String) : Run Nat := do
  let send (signal : Option Nat) (name : String) (targets : List String) : Run Nat := do
    match signal, targets with
    | none, _ =>
      complainAt ("kill: invalid signal number or name: " ++ name)
      return 2
    | some _, [] =>
      complainAt killUsage
      return 2
    | some signal, targets => targets.foldlM (fun _ target => sendSignal signal target) 0
  match args with
  | "-l" :: number :: _ =>
    match number.toNat?.bind fun n => signalNames.lookup (n % 128) with
    | some name => do
      say (name ++ "\n")
      return 0
    | none => do
      complainAt ("kill: invalid signal number or exit status: " ++ number)
      return 2
  | "-s" :: name :: targets => send (signal? name) name targets
  | "--" :: targets => send (some 15) "" targets
  | first :: targets =>
    match first.toList with
    | '-' :: c :: cs =>
      match signal? (String.ofList (c :: cs)) with
      | some signal => send (some signal) first targets
      | none => do
        complainAt ("kill: Illegal option -" ++ String.ofList [c])
        return 2
    | _ => send (some 15) "" args
  | [] => send (some 15) "" []

def trap (args : List String) : Run Nat := do
  let set (action : Option String) (names : List String) : Run Nat := do
    let mut status := 0
    for name in names do
      match if name = "EXIT" then some 0 else signal? name with
      | some signal => modify fun s =>
        let others := s.traps.filter fun t => t.1 != signal
        { s with traps := match action with
          | some a => (signal, a) :: others
          | none => others }
      | none =>
        complain ("trap: " ++ name ++ ": bad trap")
        status := 1
    return status
  match args with
  | [] => do
    (← get).traps.reverse.forM fun t =>
      say ("trap -- " ++ quote t.2 ++ " " ++ (signalNames.lookup t.1).getD "EXIT" ++ "\n")
    return 0
  | "-" :: names => set none names
  | action :: names =>
    if names.isEmpty || action.toNat?.isSome then set none args else set (some action) names

/-- A time in milliseconds, from seconds with decimal places. -/
def duration? (text : String) : Option Nat :=
  let cs := text.toList
  let (cs, unit) := match cs.getLast? with
    | some 's' => (cs.dropLast, 1000)
    | some 'm' => (cs.dropLast, 60000)
    | some 'h' => (cs.dropLast, 3600000)
    | some 'd' => (cs.dropLast, 86400000)
    | _ => (cs, 1000)
  let whole := cs.takeWhile Char.isDigit
  let value (ds : List Char) : Nat := ds.foldl (fun n d => 10 * n + (d.toNat - 48)) 0
  match cs.drop whole.length with
  | [] => if whole.isEmpty then none else some (unit * value whole)
  | '.' :: ds =>
    if ds.all Char.isDigit then some (unit * value (whole ++ ds) / Nat.pow 10 ds.length) else none
  | _ => none

def sleep (args : List String) : Run Nat := do
  match args, args.find? fun a => (duration? a).isNone with
  | [], _ => needOperands "sleep" [] (return 0)
  | _, some text =>
    complain ("sleep: invalid time interval '" ++ text ++ "'")
    complain "Try 'sleep --help' for more information."
    return 1
  | _, none =>
    modify fun s => { s with clock := (args.filterMap duration?).foldl Nat.add s.clock }
    return 0

def wait (args : List String) : Run Nat := do
  let s ← get
  match args with
  | [] =>
    set { s with clock := max s.clock s.background.doneAt }
    return 0
  | target :: _ =>
    if target = backgroundProcess then
      set { s with clock := max s.clock s.background.doneAt }
      if let some text := s.background.signal.bind signalDescription? then complain text
      return s.background.status
    else return 127

/-- The directory of the shell, as it reads from the root. -/
def Session.folder (s : Session) : String := "/" ++ "/".intercalate s.disk.current

def pwd (_ : List String) : Run Nat := do
  say ((← get).folder ++ "\n")
  return 0

def cd (args : List String) : Run Nat := do
  let s ← get
  let path := match args with
    | "-" :: _ => (s.value? "OLDPWD").getD s.folder
    | path :: _ => path
    | [] => (s.value? "HOME").getD s.folder
  match s.disk.resolve path with
  | .ok p =>
    if s.disk.entry? p == some .folder then
      let t := { s with disk := { s.disk with current := p } }
      set ((t.setVariable "OLDPWD" s.folder).setVariable "PWD" t.folder)
      if args.head? == some "-" then say (t.folder ++ "\n")
      return 0
    else
      complainAt ("cd: can't cd to " ++ path)
      return 2
  | .error _ => do
    complainAt ("cd: can't cd to " ++ path)
    return 2

def status? (text : String) : Option Nat :=
  if !text.isEmpty && text.toList.all Char.isDigit then text.toNat?.filter (· < Nat.pow 2 31) else none

def exit (args : List String) : Run Nat := do
  match args with
  | [] =>
    setFlow .exit
    return (← get).status
  | text :: _ =>
    match status? text with
    | some n =>
      setFlow .exit
      return n % 256
    | none => failAt ("exit: Illegal number: " ++ text)

def back (args : List String) : Run Nat := do
  match args with
  | [] =>
    setFlow .back
    return (← get).status
  | text :: _ =>
    match status? text with
    | some n =>
      setFlow .back
      return n % 256
    | none => failAt ("return: Illegal number: " ++ text)

def leaveLoops (again : Bool) (args : List String) : Run Nat := do
  let n := (args.head?.bind String.toNat?).getD 1
  setFlow (if again then .again n else .leave n)
  return 0

def splitAssignment (arg : String) : String × Option String :=
  let name := arg.toList.takeWhile (· ≠ '=')
  match arg.toList.drop name.length with
  | _ :: value => (String.ofList name, some (String.ofList value))
  | [] => (arg, none)

def isName (text : String) : Bool :=
  match text.toList with
  | [] => false
  | c :: cs => (c.isAlpha || c == '_') && cs.all fun d => d.isAlphanum || d == '_'

/-- Gives a variable a value, unless it is constant. -/
def setVariable (name value : String) : Run Unit := do
  let s ← get
  if s.constants.contains name then fail (name ++ ": is read only")
  else set (s.setVariable name value)

def declare (command : String) (args : List String) (action : String → Session → Session) :
    Run Nat := do
  for arg in args.filter fun a => a != "-p" do
    let (name, value) := splitAssignment arg
    if (← get).flow != .next then pure ()
    else if !isName name then discard (failAt (command ++ ": " ++ name ++ ": bad variable name"))
    else
      if let some value := value then setVariable name value
      modify (action name)
  return if (← get).flow == .next then 0 else 2

def exportNames (args : List String) : Run Nat :=
  declare "export" args fun name s => s.markExported name

def makeConstants (args : List String) : Run Nat := do
  let s ← get
  if args.isEmpty || args == ["-p"] then
    s.constants.forM fun name =>
      say ("readonly " ++ name ++ "=" ++ quote ((s.value? name).getD "") ++ "\n")
  declare "readonly" args fun name s => { s with constants := name :: s.constants }

/-- Variables that go back to what they are as soon as the function is done. -/
def shadow (args : List String) : Run Nat := do
  match (← get).shadowed with
  | none => failAt "local: not in a function"
  | some _ =>
    args.forM fun arg => modify fun s =>
      let (name, value) := splitAssignment arg
      let kept := s.shadowed.getD []
      let s := if kept.any fun v => v.1 == name then s
        else { s with shadowed := some ((name, s.value? name) :: kept) }
      match value with
      | some value => s.setVariable name value
      | none => s
    return 0

def unset (args : List String) : Run Nat := do
  let isFunction := args.contains "-f"
  for name in args.filter fun a => a != "-v" && a != "-f" do
    let s ← get
    if isFunction then set { s with functions := s.functions.filter fun f => f.1 != name }
    else if s.constants.contains name then discard (failAt ("unset: " ++ name ++ ": is read only"))
    else if !isName name then discard (failAt ("unset: " ++ name ++ ": bad variable name"))
    else set (s.unsetVariable name)
  return if (← get).flow == .next then 0 else 2

def setOption (letter : Char) (isOn : Bool) : Run Bool := do
  match letter with
  | 'e' => modify fun s => { s with stopsOnFailure := isOn }
  | 'u' => modify fun s => { s with stopsOnUnset := isOn }
  | 'x' => modify fun s => { s with isTraced := isOn }
  | _ => pure ()
  return "aefIimnsuvVxbCE".toList.contains letter

def optionLetter? (name : String) : Option Char :=
  ([("errexit", 'e'), ("nounset", 'u'), ("xtrace", 'x'), ("noglob", 'f'), ("noexec", 'n'),
    ("verbose", 'v'), ("allexport", 'a'), ("noclobber", 'C'), ("notify", 'b')] :
      List (String × Char)).lookup name

def setOptions : List String → Run Nat
  | [] => return 0
  | "--" :: rest => do
    modify fun s => { s with arguments := rest }
    return 0
  | sign :: rest =>
    if sign = "-o" || sign = "+o" then
      match rest with
      | [] => return 0
      | name :: rest =>
        match optionLetter? name with
        | some letter => do
          discard (setOption letter (sign = "-o"))
          setOptions rest
        | none => failAt ("set: Illegal option -o " ++ name)
    else do
      let turn (isOn : Bool) (letters : List Char) : Run (Option Char) := do
        let mut unknown := none
        for c in letters do
          if !(← setOption c isOn) then unknown := unknown.or (some c)
        return unknown
      let unknown ← match sign.toList with
        | '-' :: letters => turn true letters
        | '+' :: letters => turn false letters
        | _ =>
          modify fun s => { s with arguments := sign :: rest }
          return 0
      match unknown with
      | some c => failAt ("set: Illegal option -" ++ String.ofList [c])
      | none => setOptions rest

def shift (args : List String) : Run Nat := do
  let n := (args.head?.bind String.toNat?).getD 1
  let s ← get
  if s.arguments.length < n then failAt "shift: can't shift that many"
  else
    set { s with arguments := s.arguments.drop n }
    return 0

def separators (s : Session) : List Char := ((s.value? "IFS").getD " \t\n").toList

/-- Gives words of a text to variables, all that is left to the last one. -/
def giveWords (marks : List Char) : List String → List Char → Run Unit
  | [], _ => return ()
  | name :: names, cs => do
    let isSpace (c : Char) : Bool := marks.contains c && c.isWhitespace
    let cs := cs.dropWhile isSpace
    if names.isEmpty then
      setVariable name (String.ofList ((cs.reverse.dropWhile isSpace).reverse))
    else
      let word := cs.takeWhile fun c => !marks.contains c
      let rest := (cs.drop word.length).dropWhile isSpace
      let rest := match rest with
        | c :: rest => if marks.contains c then rest else c :: rest
        | [] => []
      setVariable name (String.ofList word)
      giveWords marks names rest

def withoutEscapes : List Char → List Char
  | '\\' :: c :: cs => c :: withoutEscapes cs
  | c :: cs => c :: withoutEscapes cs
  | [] => []

def read (args : List String) : Run Nat := do
  let names := args.filter fun a => a != "-r"
  if names.isEmpty then
    complainAt "read: arg count"
    return 2
  let (line, isEnded) ← readLine
  let cs := Text.decode none line
  giveWords (separators (← get)) names (if args.contains "-r" then cs else withoutEscapes cs)
  return if isEnded then 0 else 1

/-- The exported variables, in the order of their names, or the values of some. -/
def printEnvironment (args : List String) : Run Nat := do
  let s ← get
  let value? (name : String) : Option String := if s.exported.contains name then s.value? name else none
  if args.isEmpty then
    let shown := (s.bindings.filter fun v => s.exported.contains v.1).mergeSort
      fun a b => !decide (b.1 < a.1)
    shown.forM fun v => say (v.1 ++ "=" ++ v.2 ++ "\n")
    return 0
  else
    (args.filterMap value?).forM fun value => say (value ++ "\n")
    return if args.all fun name => (value? name).isSome then 0 else 1

def expressionValue? : List String → Option String
  | [word] => some word
  | ["length", word] => some (toString word.length)
  | [left, sign, right] =>
    let ofBool (b : Bool) : String := if b then "1" else "0"
    match sign, left.toInt?, right.toInt? with
    | "+", some a, some b => some (toString (a + b))
    | "-", some a, some b => some (toString (a - b))
    | "*", some a, some b => some (toString (a * b))
    | "/", some a, some b => if b = 0 then none else some (toString (a.tdiv b))
    | "%", some a, some b => if b = 0 then none else some (toString (a.tmod b))
    | "<", some a, some b => some (ofBool (a < b))
    | "<=", some a, some b => some (ofBool (a ≤ b))
    | ">", some a, some b => some (ofBool (b < a))
    | ">=", some a, some b => some (ofBool (b ≤ a))
    | "=", some a, some b => some (ofBool (a == b))
    | "!=", some a, some b => some (ofBool (a != b))
    | "=", _, _ => some (ofBool (left == right))
    | "!=", _, _ => some (ofBool (left != right))
    | "|", _, _ => some (if left.isEmpty || left = "0" then right else left)
    | "&", _, _ => some (if [left, right].any fun t => t.isEmpty || t = "0" then "0" else left)
    | _, _, _ => none
  | _ => none

/-- Prints the value of an expression; status one if it is zero or empty. -/
def expr (args : List String) : Run Nat := do
  match expressionValue? args with
  | some value =>
    say (value ++ "\n")
    return if value.isEmpty || value = "0" then 1 else 0
  | none =>
    complain "expr: syntax error"
    return 2

/-- Commands of the shell that need no interpreter; a failure of some of them ends it. -/
def builtin? : String → Option (List String → Run Nat)
  | "umask" => some fun args => do
    if args.isEmpty then say "0022\n"
    return 0
  | ":" | "true" | "ulimit" | "alias" | "unalias" | "hash" | "times" | "fg" | "bg" | "jobs" =>
    some fun _ => return 0
  | "false" => some fun _ => return 1
  | "echo" => some echo
  | "printf" => some printf
  | "test" => some (test "test")
  | "[" => some fun args =>
    if args.getLast? = some "]" then test "[" args.dropLast
    else do
      complainAt "[: missing ]"
      return 2
  | "kill" => some kill
  | "trap" => some trap
  | "wait" => some wait
  | "pwd" => some pwd
  | "cd" | "chdir" => some cd
  | "exit" => some exit
  | "return" => some back
  | "break" => some (leaveLoops false)
  | "continue" => some (leaveLoops true)
  | "export" => some exportNames
  | "readonly" => some makeConstants
  | "local" => some shadow
  | "unset" => some unset
  | "set" => some setOptions
  | "shift" => some shift
  | "read" => some read
  | _ => none

def program? : String → Option (List String → Run Nat)
  | "seq" => some seq
  | "cat" => some cat
  | "head" => some head
  | "tail" => some tail
  | "wc" => some wc
  | "grep" => some grep
  | "egrep" => some fun args => grep ("-E" :: args)
  | "fgrep" => some fun args => grep ("-F" :: args)
  | "sort" => some sort
  | "uniq" => some uniq
  | "tr" => some translate
  | "cut" => some cut
  | "tee" => some tee
  | "rev" => some rev
  | "yes" => some yes
  | "touch" => some touch
  | "rm" => some rm
  | "rmdir" => some rmdir
  | "mkdir" => some mkdir
  | "chmod" => some chmod
  | "cp" => some (transfer "cp" false)
  | "mv" => some (transfer "mv" true)
  | "ls" => some ls
  | "basename" => some basename
  | "dirname" => some dirname
  | "sleep" => some sleep
  | "printenv" => some printEnvironment
  | "expr" => some expr
  | "true" | "sync" => some fun _ => return 0
  | "false" => some fun _ => return 1
  | "echo" => some echo
  | "printf" => some printf
  | "pwd" => some pwd
  | "test" => some (test "test")
  | "kill" => some kill
  | _ => none

/-- Commands whose assignments stay. -/
def specialNames : List String :=
  [":", ".", "break", "continue", "eval", "exec", "exit", "export", "readonly", "return", "set",
    "shift", "times", "trap", "unset"]

/-- Programs that run another command. -/
def runnerNames : List String := ["sh", "bash", "dash", "env", "nice", "nohup", "timeout", "which"]

def isProgram (name : String) : Bool := (program? name).isSome || runnerNames.contains name

def programName (path : String) : String :=
  match ["/bin/", "/usr/bin/"].find? fun folder => path.startsWith folder with
  | some folder =>
    let name := String.ofList (path.toList.drop folder.length)
    if isProgram name then name else path
  | none => path

end MutationTesting.Shell
