import MutationTesting.Shell.Arithmetic
import MutationTesting.Shell.Builtins
import MutationTesting.Shell.Field
import MutationTesting.Shell.Parser

/-! Running commands.

Commands joined by bars run one after the other, each on all that the one before it wrote, and the
time they take together is that of the slowest. A command in the background runs at once and is done
when its time has passed. Every call takes one unit of `fuel`; a shell that runs out of it is stuck. -/
namespace MutationTesting.Shell

def parameter? (s : Session) (name : String) : Option String :=
  match name with
  | "?" => some (toString s.status)
  | "$" => some ownProcess
  | "!" => s.value? "!"
  | "#" => some (toString s.arguments.length)
  | "@" | "*" => some (" ".intercalate s.arguments)
  | "-" => some ""
  | "0" => some s.name
  | _ =>
    match name.toNat? with
    | some n => s.arguments[n - 1]?
    | none => s.value? name

def unsetText (orEmpty : Bool) : String :=
  if orEmpty then "parameter not set or null" else "parameter not set"

def withoutLastLineEnds (bytes : List UInt8) : List UInt8 :=
  (bytes.reverse.dropWhile (· = 10)).reverse

def succeeded : Run Bool := return (← get).status == 0

/-- Does something only if nothing has interrupted the commands before it. -/
def unlessInterrupted (body : Run Unit) : Run Unit := do
  if (← get).flow == .next then body

/-- Runs something whose failure is being asked for. -/
def tested (body : Run Unit) : Run Unit := do
  let before := (← get).isTested
  modify fun s => { s with isTested := true }
  body
  modify fun s => { s with isTested := before }

/-- Ends the shell after a failure, if it is set to and nobody asked for the failure. -/
def checkFailure : Run Unit := do
  let s ← get
  if s.stopsOnFailure && !s.isTested && s.status != 0 && s.flow == .next then setFlow .exit

/-- The end of one round of a loop; whether another one follows. -/
def endRound : Run Bool := do
  match (← get).flow with
  | .next => return true
  | .leave n => do
    setFlow (if n ≤ 1 then .next else .leave (n - 1))
    return false
  | .again n => do
    setFlow (if n ≤ 1 then .next else .again (n - 1))
    return n ≤ 1
  | _ => return false

def trace (assigned : List (String × String)) (args : List String) : Run Unit := do
  if (← get).isTraced then
    complain (" ".intercalate ("+" :: assigned.map (fun a => a.1 ++ "=" ++ a.2) ++ args))

def openChannel (kind : RedirectKind) (target : String) : Run (Except String Channel) := do
  let s ← get
  let file (isNew : Bool) : Run (Except String Channel) := do
    let path := s.disk.absolute target
    let old := if isNew then "" else (s.disk.readText path).toOption.getD ""
    match s.disk.writeText path old with
    | .ok disk =>
      set { s with disk }
      return .ok (.file path)
    | .error .notFound => return .error ("cannot create " ++ target ++ ": Directory nonexistent")
    | .error e => return .error ("cannot create " ++ target ++ ": " ++ reason e)
  let source (bytes : List UInt8) : Run (Except String Channel) := do
    let (i, s) := s.addSource { bytes }
    set s
    return .ok (.source i)
  match kind with
  | .duplicate =>
    match target.toNat?.bind fun n => s.descriptors.lookup n with
    | some c => return .ok c
    | none => if target = "-" then return .ok .discard else return .error (target ++ ": Bad file descriptor")
  | .here => source (Text.toBytes target)
  | .input =>
    if target = "/dev/null" then return .ok .discard
    else
      match s.disk.readText target with
      | .ok text => source (Text.toBytes text)
      | .error .notFound => return .error ("cannot open " ++ target ++ ": No such file")
      | .error e => return .error ("cannot open " ++ target ++ ": " ++ reason e)
  | .output | .append =>
    match target with
    | "/dev/null" => return .ok .discard
    | "/dev/stdout" => return .ok ((s.descriptors.lookup 1).getD .discard)
    | "/dev/stderr" => return .ok ((s.descriptors.lookup 2).getD .discard)
    | _ => file (kind == .output)

/-- Runs something in a session of its own, and returns what it writes. A writer that does not come to
an end is one that repeats what it wrote last. -/
def capture (body : Run Unit) : Run Stream := do
  let (i, s) := (← get).addSink
  set s
  isolated do
    modify fun s => s.setDescriptor 1 (.sink i)
    body
  let s ← get
  let stream := s.collected i
  match s.flow, (s.sinks.getD i {}).pieces with
  | .stuck, (_, last) :: _ => do
    setFlow .next
    return { stream with cycle := last }
  | _, _ => return stream

/-- Signals that a shell ignores are ignored by those that it begins; other traps are its own. -/
def Session.inheritedTraps (s : Session) : List (Nat × String) := s.traps.filter fun t => t.2.isEmpty

/-- A shell of its own begins with the exported variables and little else. -/
def Session.fresh (s : Session) (name : String) (arguments : List String) : Session :=
  { s with
    name, arguments
    within := none
    bindings := s.bindings.filter fun v => s.exported.contains v.1
    constants := []
    shadowed := none
    functions := []
    traps := s.inheritedTraps
    status := 0
    stopsOnFailure := false
    stopsOnUnset := false
    isTraced := false
    isTested := false }

/-- A command that a signal has ended is a status to the shell that began it. -/
def reap : Run Unit := do
  if let .killed signal := (← get).flow then
    modify fun s => { s with flow := .next, status := 128 + signal }
    if let some text := signalDescription? signal then complain text

/-- Values of variables are put back after a command that had its own. -/
def putBack (before : Session) (names : List String) : Run Unit :=
  names.forM fun name => modify fun s =>
    { s.restore name (before.value? name) with exported := before.exported }

/-- What a shell is asked to do: options, then a text, a file or nothing, then arguments. -/
structure ShellCall where
  options : List Char := []
  operands : List String := []

def ShellCall.ofArguments : List String → ShellCall
  | [] => {}
  | arg :: rest =>
    match arg.toList with
    | '-' :: c :: cs =>
      let call := ofArguments rest
      if arg = "--" then { operands := rest } else { call with options := c :: cs ++ call.options }
    | _ => { operands := arg :: rest }

def maxDepth : Nat := 1000

structure Piping where
  /-- When all of its commands begin. -/
  start : Nat
  /-- When the last of those that have run is done. -/
  latest : Nat
  /-- What the next command reads; its own input if there is nothing. -/
  input : Option Stream := none

structure Loop where
  isUntil : Bool
  condition : Command
  body : Command
  /-- Status of the last round. -/
  status : Nat := 0

def openingWords : List String := ["if", "for", "while", "until", "case", "!", "\x7b"]

/-- Commands of the shell that run other commands or tell about them. -/
def shellNames : List String := ["command", "type"]

def whereabouts? (s : Session) (name : String) : Option (String × String) :=
  if closingWords.contains name || openingWords.contains name then some (name, "is a shell keyword")
  else if (s.functions.lookup name).isSome then some (name, "is a shell function")
  else if specialNames.contains name then some (name, "is a special shell builtin")
  else if (builtin? name).isSome || shellNames.contains name then some (name, "is a shell builtin")
  else if isProgram name then some ("/usr/bin/" ++ name, "is /usr/bin/" ++ name)
  else if name.contains '/' && s.disk.exists? name then some (name, "is " ++ name)
  else none

def describe (isShort : Bool) (names : List String) : Run Nat := do
  let mut status := 0
  for name in names do
    match whereabouts? (← get) name with
    | some (path, text) => say ((if isShort then path else name ++ " " ++ text) ++ "\n")
    | none =>
      if !isShort then say (name ++ ": not found\n")
      status := 127
  return status

def which (names : List String) : Run Nat := do
  let known := names.filter isProgram
  known.forM fun name => say ("/usr/bin/" ++ name ++ "\n")
  return if known.length = names.length && !names.isEmpty then 0 else 1

mutual

def expand : (fuel : Nat) → (isQuoted : Bool) → List Part → Run (List Piece)
  | 0, _, _ => do
    setFlow .stuck
    return []
  | _ + 1, _, [] => return []
  | fuel + 1, isQuoted, p :: ps => do
    let first ← expandPart fuel isQuoted p
    let rest ← expand fuel isQuoted ps
    return first ++ rest

def expandPart : (fuel : Nat) → (isQuoted : Bool) → Part → Run (List Piece)
  | 0, _, _ => do
    setFlow .stuck
    return []
  | _ + 1, isQuoted, .plain text => return Piece.ofText isQuoted false text
  | _ + 1, _, .quoted text => return .mark :: Piece.ofText true false text
  | fuel + 1, _, .doubleQuoted ps => do
    match ps with
    | [.parameter "@" .plain _] =>
      let args := (← get).arguments
      return List.intercalate [.boundary] (args.map fun a => .mark :: Piece.ofText true false a)
    | ps => return .mark :: (← expand fuel true ps)
  | fuel + 1, isQuoted, .parameter name modifier argument => do
    let s ← get
    let value? := parameter? s name
    let plain (text : String) : List Piece := Piece.ofText isQuoted (!isQuoted) text
    let value := value?.getD ""
    let isMissing (orEmpty : Bool) : Bool := value?.isNone || (orEmpty && value.isEmpty)
    let refusesUnset := match modifier with
      | .plain | .length | .dropStart _ | .dropEnd _ => s.stopsOnUnset && name != "@" && name != "*"
      | _ => false
    if refusesUnset && value?.isNone then
      fail (name ++ ": " ++ unsetText false)
      return []
    match modifier with
    | .plain => return plain value
    | .length => return plain (toString value.utf8ByteSize)
    | .default orEmpty => if isMissing orEmpty then expand fuel isQuoted argument else return plain value
    | .assign orEmpty =>
      if isMissing orEmpty then
        let pieces ← expand fuel isQuoted argument
        setVariable name (pieceText pieces)
        return pieces
      else return plain value
    | .alternative orEmpty => if isMissing orEmpty then return [] else expand fuel isQuoted argument
    | .require orEmpty =>
      if isMissing orEmpty then
        let text := pieceText (← expand fuel true argument)
        fail (name ++ ": " ++ if argument.isEmpty then unsetText orEmpty else text)
        return []
      else return plain value
    | .dropStart longest => do
      let gs := (← expand fuel false argument).filterMap Piece.glyph?
      return plain (String.ofList ((Pattern.ofGlyphs gs.length gs).dropStart longest value.toList))
    | .dropEnd longest => do
      let gs := (← expand fuel false argument).filterMap Piece.glyph?
      return plain (String.ofList ((Pattern.ofGlyphs gs.length gs).dropEnd longest value.toList))
    | .unknown => do
      fail "Bad substitution"
      return []
  | fuel + 1, isQuoted, .output command => do
    let stream ← capture do
      modify fun s => { s with traps := s.inheritedTraps }
      run fuel command
    modify fun s => { s with outputStatus := some s.status }
    if stream.isEndless then setFlow .stuck
    let text := (Text.ofBytes (withoutLastLineEnds stream.bytes)).toList.filter (· ≠ '\x00')
    return Piece.ofText isQuoted (!isQuoted) (String.ofList text)
  | fuel + 1, isQuoted, .arithmetic ps => do
    let text := pieceText (← expand fuel true ps)
    let s ← get
    match Arithmetic.evaluate s.bindings text with
    | .ok (n, bindings) =>
      set { s with bindings }
      return Piece.ofText isQuoted (!isQuoted) (toString n)
    | .error e =>
      fail (e.message text)
      return []

def expandWords : (fuel : Nat) → List (List Part) → Run (List String)
  | 0, _ => do
    setFlow .stuck
    return []
  | _ + 1, [] => return []
  | fuel + 1, w :: ws => do
    let pieces ← expand fuel false w
    let s ← get
    if s.flow != .next then return []
    let first := (fieldsFrom (separators s) none pieces).flatMap (arguments s.disk)
    let rest ← expandWords fuel ws
    return first ++ rest

def expandText (fuel : Nat) (ps : List Part) : Run String := do
  match fuel with
  | 0 =>
    setFlow .stuck
    return ""
  | fuel + 1 => return pieceText (← expand fuel false ps)

/-- Makes assignments; the names that were assigned to, with their values. -/
def assign : (fuel : Nat) → List (String × List Part) → Run (List (String × String))
  | 0, _ => do
    setFlow .stuck
    return []
  | _ + 1, [] => return []
  | fuel + 1, (name, value) :: rest => do
    let text ← expandText fuel value
    if (← get).flow != .next then return []
    setVariable name text
    return (name, text) :: (← assign fuel rest)

def openRedirects : (fuel : Nat) → List Redirect → Run Bool
  | 0, _ => do
    setFlow .stuck
    return false
  | _ + 1, [] => return true
  | fuel + 1, .mk n kind target :: rest => do
    let target ← expandText fuel target
    match ← openChannel kind target with
    | .ok channel =>
      modify fun s => s.setDescriptor n channel
      openRedirects fuel rest
    | .error complaint =>
      complainAsShell complaint
      setStatus 2
      return false

/-- Runs something with redirections, which end with it; whether they could be opened. -/
def redirected (fuel : Nat) (rs : List Redirect) (body : Run Unit) : Run Bool := do
  match fuel with
  | 0 =>
    setFlow .stuck
    return false
  | fuel + 1 =>
    let before := (← get).descriptors
    let isOpen ← openRedirects fuel rs
    if isOpen then body
    modify fun s => { s with descriptors := before }
    return isOpen

/-- Runs a text line by line; without any command it succeeds. -/
def runLines : (fuel : Nat) → (isEmpty : Bool) → List Char → Run Unit
  | 0, _, _ => setFlow .stuck
  | fuel + 1, isEmpty, cs => do
    match Command.next? cs with
    | .error e =>
      modify fun s => { s with line := s.lineEnds + 1 - e.linesAfter }
      fail e.fault.message
    | .ok none => if isEmpty then setStatus 0
    | .ok (some (c, rest)) =>
      run fuel c
      unlessInterrupted (runLines fuel false rest)

def runText (fuel : Nat) (text : String) : Run Unit := do
  match fuel with
  | 0 => setFlow .stuck
  | fuel + 1 =>
    let s ← get
    let cs := text.toList
    set { s with lineEnds := cs.count '\n', line := 1 }
    runLines fuel true cs
    modify fun t => { t with lineEnds := s.lineEnds, line := s.line }

/-- Runs a text in the name of a command. -/
def runWithin (command : String) (fuel : Nat) (text : String) : Run Unit := do
  match fuel with
  | 0 => setFlow .stuck
  | fuel + 1 =>
    let before := (← get).within
    modify fun s => { s with within := some command }
    runText fuel text
    modify fun s => { s with within := before }

/-- What is trapped at the end of a shell is done after all else. It keeps the status, unless it
ends the shell itself. -/
def leaveShell (fuel : Nat) : Run Unit := do
  match fuel with
  | 0 => setFlow .stuck
  | fuel + 1 =>
    let s ← get
    match s.flow, s.traps.lookup 0 with
    | .killed _, _ | .stuck, _ | _, none => return ()
    | _, some action =>
      set { s with flow := .next, traps := s.traps.filter fun t => t.1 != 0 }
      runText fuel action
      if (← get).flow == .next then setStatus s.status

/-- Does what is trapped for the signals that have come. -/
def runTraps : (fuel : Nat) → Run Unit
  | 0 => setFlow .stuck
  | fuel + 1 => do
    let s ← get
    match s.arrived, s.flow with
    | signal :: rest, .next =>
      set { s with arrived := rest }
      runText fuel ((s.traps.lookup signal).getD "")
      unlessInterrupted do
        setStatus s.status
        runTraps fuel
    | _, _ => return ()

def runShell (fuel : Nat) (options : List Char) (name : String) (args : List String) (text : String) :
    Run Unit := do
  match fuel with
  | 0 => setFlow .stuck
  | fuel + 1 =>
    isolated do
      modify fun s => s.fresh name args
      options.forM fun c => discard (setOption c true)
      runText fuel text
      leaveShell fuel

def callShell (fuel : Nat) (program : String) (args : List String) : Run Unit := do
  match fuel with
  | 0 => setFlow .stuck
  | fuel + 1 =>
    let call := ShellCall.ofArguments args
    match call.options.contains 'c', call.operands with
    | true, [] =>
      complain (program ++ ": 0: -c requires an argument")
      setStatus 2
    | true, text :: operands =>
      runShell fuel call.options (operands.headD program) (operands.drop 1) text
    | false, [] => runShell fuel call.options program [] (Text.ofBytes (← readInput))
    | false, path :: operands =>
      if call.options.contains 's' then
        runShell fuel call.options program (path :: operands) (Text.ofBytes (← readInput))
      else
        match (← get).disk.readText path with
        | .ok text => runShell fuel call.options path operands text
        | .error _ =>
          complain (program ++ ": 0: cannot open " ++ path ++ ": No such file")
          setStatus 2

def callProgram : (fuel : Nat) → (name : String) → (args : List String) → Run Unit
  | 0, _, _ => setFlow .stuck
  | fuel + 1, path, args => do
    let name := programName path
    match name, args with
    | "sh", args | "dash", args | "bash", args => callShell fuel name args
    | "env", [] => setStatus (← printEnvironment [])
    | "env", "-i" :: args => do
      let before ← get
      modify fun s => { s with exported := [] }
      callProgram fuel "env" args
      modify fun s => { s with exported := before.exported }
    | "env", "-u" :: name :: args => do
      let before ← get
      modify fun s => s.unsetVariable name
      callProgram fuel "env" args
      putBack before [name]
    | "env", args => do
      let names := args.takeWhile fun a => a.contains '='
      let before ← get
      discard (exportNames names)
      match args.drop names.length with
      | name :: args =>
        if isProgram (programName name) || name.contains '/' then callProgram fuel name args
        else
          complain ("env: '" ++ name ++ "': No such file or directory")
          setStatus 127
      | [] => setStatus (← printEnvironment [])
      putBack before (names.map fun a => (splitAssignment a).1)
    | "nice", "-n" :: _ :: name :: args | "nice", name :: args | "nohup", name :: args =>
      callProgram fuel name args
    | "timeout", time :: name :: args => do
      let stop := (← get).clock + (duration? time).getD 0
      callProgram fuel name args
      let s ← get
      if s.flow == .stuck || stop < s.clock then
        set { s with flow := .next, clock := stop, status := 124 }
    | "which", names => setStatus (← which names)
    | _, _ =>
      match program? name with
      | some action => setStatus (← action args)
      | none =>
        let s ← get
        match s.disk.resolve name with
        | .ok p =>
          match name.contains '/', s.disk.entry? p with
          | true, some (.file text) =>
            if s.runnable.contains p then runShell fuel [] name args text
            else
              complainAsShell (name ++ ": Permission denied")
              setStatus 126
          | true, some .folder =>
            complainAsShell (name ++ ": Permission denied")
            setStatus 126
          | _, _ =>
            complainAsShell (name ++ ": not found")
            setStatus 127
        | .error _ =>
          complainAsShell (name ++ ": not found")
          setStatus 127

def callFunction (fuel : Nat) (body : Command) (args : List String) : Run Unit := do
  match fuel with
  | 0 => setFlow .stuck
  | fuel + 1 =>
    let s ← get
    if s.depth < maxDepth then
      set { s with arguments := args, shadowed := some [], depth := s.depth + 1 }
      run fuel body
      modify fun t =>
        let u := (t.shadowed.getD []).foldl (fun u v => u.restore v.1 v.2) t
        { u with
          arguments := s.arguments
          shadowed := s.shadowed
          depth := s.depth
          flow := if t.flow == .back then .next else t.flow }
    else fail ("Maximum function recursion depth (" ++ toString maxDepth ++ ") reached")

/-- Runs a command by its name and arguments: one that is special, a function, a command of the
shell or a program. -/
def call : (fuel : Nat) → (name : String) → (args : List String) → Run Unit
  | 0, _, _ => setFlow .stuck
  | fuel + 1, name, args => do
    let s ← get
    match name, args with
    | "eval", args => runWithin "eval" fuel (" ".intercalate args)
    | "exec", name :: args => do
      modify fun s => { s with within := some "exec" }
      callProgram fuel name args
      modify fun t => { t with within := s.within, traps := [] }
      unlessInterrupted (setFlow .exit)
    | ".", path :: _ => do
      match ← openFile path with
      | .ok stream =>
        runWithin path fuel (Text.ofBytes stream.bytes)
        if (← get).flow == .back then setFlow .next
      | .error _ => setStatus (← failAt (".: cannot open " ++ path ++ ": No such file"))
    | ".", [] => setStatus 0
    | _, _ =>
      match s.functions.lookup name, builtin? name with
      | some body, action? =>
        match specialNames.contains name, action? with
        | true, some action => setStatus (← action args)
        | _, _ => callFunction fuel body args
      | none, some action => setStatus (← action args)
      | none, none =>
        match name, args with
        | "command", "-v" :: names => setStatus (← describe true (names.take 1))
        | "command", "-V" :: names => setStatus (← describe false (names.take 1))
        | "type", names => setStatus (← describe false names)
        | "command", "-p" :: name :: args | "command", name :: args => do
          set { s with functions := [] }
          call fuel name args
          modify fun t => { t with functions := s.functions }
        | "command", [] => setStatus 0
        | _, _ =>
          callProgram fuel name args
          reap

def runPiped (p : Piping) : (fuel : Nat) → List Command → Run Unit
  | 0, _ => setFlow .stuck
  | _ + 1, [] => modify fun s => { s with clock := p.latest }
  | fuel + 1, c :: cs => do
    let onInput : Run Unit := do
      if let some stream := p.input then
        let (i, s) := (← get).addSource stream
        set (s.setDescriptor 0 (.source i))
      modify fun s => { s with clock := p.start, traps := s.inheritedTraps }
      run fuel c
    if cs.isEmpty then isolated onInput
    else
      let stream ← capture onInput
      let latest := max p.latest (← get).clock
      unlessInterrupted (runPiped { p with latest, input := some stream } fuel cs)
    modify fun s => { s with clock := max p.latest s.clock }

def runAll : (fuel : Nat) → List Command → Run Unit
  | 0, _ => setFlow .stuck
  | _ + 1, [] => return ()
  | fuel + 1, c :: cs => do
    run fuel c
    unlessInterrupted (runAll fuel cs)

/-- Repeats a body; the status is that of the last round. -/
def repeatWhile (l : Loop) : (fuel : Nat) → Run Unit
  | 0 => setFlow .stuck
  | fuel + 1 => do
    tested (run fuel l.condition)
    if ← endRound then
      if (← succeeded) == l.isUntil then setStatus l.status
      else
        run fuel l.body
        let status := (← get).status
        if ← endRound then repeatWhile { l with status } fuel

def repeatEach (name : String) (body : Command) : (fuel : Nat) → List String → Run Unit
  | 0, _ => setFlow .stuck
  | _ + 1, [] => return ()
  | fuel + 1, w :: ws => do
    setVariable name w
    unlessInterrupted do
      run fuel body
      if ← endRound then repeatEach name body fuel ws

def matchesAny (text : String) : (fuel : Nat) → List (List Part) → Run Bool
  | 0, _ => do
    setFlow .stuck
    return false
  | _ + 1, [] => return false
  | fuel + 1, p :: ps => do
    let gs := (← expand fuel false p).filterMap Piece.glyph?
    if (Pattern.ofGlyphs gs.length gs).isMatch text.toList then return true
    else matchesAny text fuel ps

def runArms (text : String) : (fuel : Nat) → List (List (List Part) × Command) → Run Unit
  | 0, _ => setFlow .stuck
  | _ + 1, [] => setStatus 0
  | fuel + 1, (ps, body) :: rest => do
    if ← matchesAny text fuel ps then
      setStatus 0
      run fuel body
    else runArms text fuel rest

def runSimple (assignments : List (String × List Part)) (words : List (List Part))
    (rs : List Redirect) : (fuel : Nat) → Run Unit
  | 0 => setFlow .stuck
  | fuel + 1 => do
    modify fun s => { s with outputStatus := none }
    let args ← expandWords fuel words
    unlessInterrupted do
      let before ← get
      match args with
      | [] =>
        discard (redirected fuel rs do
          trace (← assign fuel assignments) []
          unlessInterrupted (modify fun s => { s with status := s.outputStatus.getD 0 }))
      | ["exec"] =>
        if ← openRedirects fuel rs then setStatus 0 else setFlow .exit
      | name :: args =>
        let assigned ← assign fuel assignments
        trace assigned (name :: args)
        assigned.forM fun a => modify fun s => s.markExported a.1
        unlessInterrupted do
          let isOpen ← redirected fuel rs (call fuel name args)
          if !isOpen && specialNames.contains name then setFlow .exit
        if !specialNames.contains name then putBack before (assigned.map Prod.fst)
    runTraps fuel
    checkFailure

/-- Runs a command in the background: it is done when its time has passed. Its output is open until
then, unless it goes elsewhere. -/
def runBehind (fuel : Nat) (c : Command) : Run Unit := do
  match fuel with
  | 0 => setFlow .stuck
  | fuel + 1 =>
    let before ← get
    let rs := match c with
      | .simple _ _ _ rs | .redirected _ rs => rs
      | _ => []
    let mut holds := true
    isolated do
      modify fun s => { s.setDescriptor 0 .discard with traps := s.inheritedTraps }
      discard (openRedirects fuel rs)
      modify fun s => { s with status := if s.holdsOutput then 1 else 0, disk := before.disk }
    holds := (← get).status == 1
    isolated do
      modify fun s =>
        { s.setDescriptor 0 .discard with traps := s.inheritedTraps, sinks := before.sinks }
      run fuel c
      leaveShell fuel
    modify fun s =>
      let silentAt := if holds then max before.background.silentAt s.clock
        else before.background.silentAt
      let background : Background :=
        { doneAt := max before.background.doneAt s.clock, silentAt, status := s.status }
      { s.setVariable "!" backgroundProcess with background, clock := before.clock, status := 0 }

def run : (fuel : Nat) → Command → Run Unit
  | 0, _ => setFlow .stuck
  | fuel + 1, c => do
    match c with
    | .simple linesAfter assignments words rs =>
      modify fun s => { s with line := s.lineEnds + 1 - linesAfter }
      runSimple assignments words rs fuel
    | .pipeline cs =>
      let start := (← get).clock
      runPiped { start, latest := start } fuel cs
      checkFailure
    | .negation c =>
      tested (run fuel c)
      modify fun s => { s with status := if s.status = 0 then 1 else 0 }
    | .both a b =>
      tested (run fuel a)
      unlessInterrupted do
        if ← succeeded then run fuel b
    | .either a b =>
      tested (run fuel a)
      unlessInterrupted do
        if !(← succeeded) then run fuel b
    | .sequence cs => runAll fuel cs
    | .background c => runBehind fuel c
    | .subshell c =>
      isolated do
        modify fun s => { s with traps := s.inheritedTraps }
        run fuel c
        leaveShell fuel
      checkFailure
    | .redirected c rs => discard (redirected fuel rs (run fuel c))
    | .branch condition body otherwise =>
      tested (run fuel condition)
      unlessInterrupted do
        if ← succeeded then run fuel body
        else
          setStatus 0
          run fuel otherwise
    | .loop isUntil condition body => repeatWhile { isUntil, condition, body } fuel
    | .each name words body =>
      let items ← expandWords fuel words
      setStatus 0
      unlessInterrupted (repeatEach name body fuel items)
    | .choose word arms =>
      let text ← expandText fuel word
      runArms text fuel arms
    | .define name body =>
      modify fun s => { s with functions := (name, body) :: s.functions, status := 0 }

end

/-- Calls that one command may take inside each other, rounds of loops included. -/
def maxFuel : Nat := 100000

def runLine (line : String) (environment : List (String × String)) (d : Disk) : Session :=
  let start : Session := {
    bindings := environment
    exported := environment.map Prod.fst
    disk := d }
  let body : Run Unit := do
    modify fun s => s.setVariable "PWD" s.folder
    runText maxFuel line
    leaveShell maxFuel
  (body start).2

/-- When all that a shell has begun is done, as far as its output goes. -/
def Session.endTime (s : Session) : Nat := max s.clock s.background.silentAt

end MutationTesting.Shell
