import MutationTesting.Shell.Filters

/-! Commands that change or list files. -/
namespace MutationTesting.Shell

/-- Does something with every operand; `failure` is the status if some of it did not work. -/
def eachOperand (failure : Nat) (operands : List String) (action : String → Run Bool) :
    Run Nat := do
  let mut good := true
  for path in operands do
    if !(← action path) then good := false
  return if good then 0 else failure

def needOperands (program : String) (operands : List String) (action : Run Nat) : Run Nat := do
  if operands.isEmpty then
    complain (program ++ ": missing operand")
    complain ("Try '" ++ program ++ " --help' for more information.")
    return 1
  else action

def changeDisk (complaint : DiskFailure → String) (change : Disk → Except DiskFailure Disk) :
    Run Bool := do
  let s ← get
  match change s.disk with
  | .ok disk =>
    set { s with disk }
    return true
  | .error e =>
    complain (complaint e)
    return false

def touch (args : List String) : Run Nat :=
  eachOperand 1 (options [] args).2 fun path => do
    if (← get).disk.exists? path then return true
    else
      changeDisk (fun e => "touch: cannot touch '" ++ path ++ "': " ++ reason e)
        fun d => d.writeText path ""

def rm (args : List String) : Run Nat := do
  let (os, paths) := options [] args
  let has (c : Char) : Bool := os.any fun o => o.1 == c
  needOperands "rm" (if has 'f' then ["-f"] else paths) <| eachOperand 1 paths fun path => do
    let d := (← get).disk
    let refuse (why : String) : Run Bool := do
      complain ("rm: cannot remove '" ++ path ++ "': " ++ why)
      return false
    if !d.exists? path then
      if has 'f' then return true else refuse "No such file or directory"
    else if d.isFolder path && !(has 'r' || has 'R') then refuse "Is a directory"
    else
      modify fun s => { s with disk := d.removeAt path }
      return true

def mkdir (args : List String) : Run Nat := do
  let (os, paths) := options ['m'] args
  needOperands "mkdir" paths <| eachOperand 1 paths fun path =>
    changeDisk (fun e => "mkdir: cannot create directory '" ++ path ++ "': " ++ reason e) fun d =>
      if os.any fun o => o.1 == 'p' then d.makeFolders path else d.makeFolder path

def rmdir (args : List String) : Run Nat := do
  let (_, paths) := options [] args
  needOperands "rmdir" paths <| eachOperand 1 paths fun path => do
    let d := (← get).disk
    let refuse (why : String) : Run Bool := do
      complain ("rmdir: failed to remove '" ++ path ++ "': " ++ why)
      return false
    match d.resolve path with
    | .error e => refuse (reason e)
    | .ok p =>
      match d.entry? p with
      | none => refuse (reason .notFound)
      | some (.file _) => refuse (reason .notDirectory)
      | some .folder =>
        if (d.below p).isEmpty then
          modify fun s => { s with disk := d.remove p }
          return true
        else refuse "Directory not empty"

def chmod : List String → Run Nat
  | mode :: paths =>
    eachOperand 1 paths fun path => do
      let s ← get
      match s.disk.resolve path with
      | .ok p =>
        if (s.disk.entry? p).isNone then
          complain ("chmod: cannot access '" ++ path ++ "': " ++ reason .notFound)
          return false
        else
          let others := s.runnable.filter (· ≠ p)
          let isOn := (mode.contains '+' && mode.contains 'x') ||
            (mode.toList.head?.any fun c => ['1', '3', '5', '7'].contains c)
          let isOff := mode.contains '-' && mode.contains 'x'
          set { s with runnable := if isOn then p :: others else if isOff then others else s.runnable }
          return true
      | .error e => do
        complain ("chmod: cannot access '" ++ path ++ "': " ++ reason e)
        return false
  | [] => do
    complain "chmod: missing operand"
    return 1

def destination (d : Disk) (path target : String) : String :=
  if d.isFolder target then Location.join target ((Location.fileName? path).getD path) else target

def transfer (program : String) (moves : Bool) (args : List String) : Run Nat := do
  let (os, operands) := options [] args
  let target := operands.getLastD ""
  let isDeep := moves || os.any fun o => o.1 == 'r' || o.1 == 'R' || o.1 == 'a'
  if operands.length < 2 then
    complain (match operands with
      | [path] => program ++ ": missing destination file operand after '" ++ path ++ "'"
      | _ => program ++ ": missing file operand")
    complain ("Try '" ++ program ++ " --help' for more information.")
    return 1
  eachOperand 1 operands.dropLast fun path => do
    if !isDeep && (← get).disk.isFolder path then
      complain (program ++ ": -r not specified; omitting directory '" ++ path ++ "'")
      return false
    changeDisk (fun e => program ++ ": cannot stat '" ++ path ++ "': " ++ reason e) fun d => do
      let place := destination d path target
      if d.isFolder path then
        let d ← d.makeFolder place
        let p ← d.resolve path
        let q ← d.resolve place
        let d := (d.below p).foldl (fun d e => d.store (q ++ e.1) e.2) d
        return if moves then d.removeAt path else d
      else
        let text ← d.readText path
        let d := if moves then d.removeAt path else d
        d.writeText place text

/-- Lists the names in folders, without those that begin with a dot unless it is asked for them. -/
def ls (args : List String) : Run Nat := do
  let (os, paths) := options [] args
  let has (c : Char) : Bool := os.any fun o => o.1 == c
  let showsAll := has 'a' || has 'A'
  eachOperand 2 (if paths.isEmpty then ["."] else paths) fun path => do
    let d := (← get).disk
    match d.resolve path with
    | .ok p =>
      match d.entry? p with
      | some .folder => do
        let names := (d.below p).filterMap fun e =>
          if e.1.length = 1 then e.1.head? else none
        let shown := (names.filter fun n => showsAll || !n.startsWith ".").mergeSort
          fun a b => !decide (b < a)
        if 1 < paths.length then say (path ++ ":\n")
        if has 'd' then say (path ++ "\n")
        else ((if has 'a' then [".", ".."] else []) ++ shown).forM fun n => say (n ++ "\n")
        return true
      | some (.file _) => do
        say (path ++ "\n")
        return true
      | none => do
        complain ("ls: cannot access '" ++ path ++ "': No such file or directory")
        return false
    | .error e => do
      complain ("ls: cannot access '" ++ path ++ "': " ++ reason e)
      return false

def basename (args : List String) : Run Nat := do
  let name := ((args.head?).bind Location.fileName?).getD (args.headD "")
  let ending := args.getD 1 ""
  let short := if name.endsWith ending && name != ending then
    String.ofList (name.toList.take (name.length - ending.length)) else name
  say (short ++ "\n")
  return 0

def dirname (args : List String) : Run Nat := do
  let path := args.headD ""
  let parent := (Location.parent? path).getD path
  say ((if parent.isEmpty then "." else parent) ++ "\n")
  return 0

end MutationTesting.Shell
