import MutationTesting.Shell.Printing
import MutationTesting.Regex.Matcher

/-! Commands that read files or their input and print some of it. -/
namespace MutationTesting.Shell

/-- Options with their values, and the other arguments. A letter of `valued` takes the rest of its
argument, or else the next one, as its value; `open?` is a letter that waits for it. -/
def optionsAfter (valued : List Char) (open? : Option Char) :
    List String → List (Char × String) × List String
  | [] => ([], [])
  | arg :: rest =>
    match open?, arg.toList with
    | some c, _ =>
      let (os, operands) := optionsAfter valued none rest
      ((c, arg) :: os, operands)
    | none, ['-', '-'] => ([], rest)
    | none, '-' :: c :: cs =>
      if c.isDigit then
        let (os, operands) := optionsAfter valued none rest
        (('n', String.ofList (c :: cs)) :: os, operands)
      else
        let letters := (c :: cs).takeWhile fun d => !valued.contains d
        let plain := letters.map fun d => (d, "")
        match (c :: cs).drop letters.length with
        | [] =>
          let (os, operands) := optionsAfter valued none rest
          (plain ++ os, operands)
        | [d] =>
          let (os, operands) := optionsAfter valued (some d) rest
          (plain ++ os, operands)
        | d :: value =>
          let (os, operands) := optionsAfter valued none rest
          (plain ++ (d, String.ofList value) :: os, operands)
    | none, _ =>
      let (os, operands) := optionsAfter valued none rest
      (os, arg :: operands)

def options (valued : List Char) (args : List String) : List (Char × String) × List String :=
  optionsAfter valued none args

def reason : DiskFailure → String
  | .notFound => "No such file or directory"
  | .notDirectory => "Not a directory"
  | .isDirectory => "Is a directory"
  | .alreadyExists => "File exists"
  | .nameTooLong => "File name too long"
  | .zeroCharacter => "Invalid argument"

def readComplaint (program path : String) (e : DiskFailure) : String :=
  let text := reason e
  program ++ ": " ++ match program, e with
    | "head", .isDirectory | "tail", .isDirectory => "error reading '" ++ path ++ "': " ++ text
    | "head", _ | "tail", _ => "cannot open '" ++ path ++ "' for reading: " ++ text
    | "sort", .isDirectory => "read failed: " ++ path ++ ": " ++ text
    | "sort", _ => "cannot read: " ++ path ++ ": " ++ text
    | _, _ => path ++ ": " ++ text

/-- The contents of files in turn, the input if none is named; a file that cannot be read is
complained about and left out. -/
def streams (program : String) (paths : List String) : Run (List (String × Stream) × Bool) := do
  let mut found := []
  let mut allRead := true
  for path in (if paths.isEmpty then ["-"] else paths) do
    match ← openFile path with
    | .ok stream => found := found ++ [(path, stream)]
    | .error e =>
      complain (readComplaint program path e)
      allRead := false
  return (found, allRead)

/-- The same for a program that reads to the end. -/
def contents (program : String) (paths : List String) : Run (List (String × List UInt8) × Bool) := do
  let (found, allRead) ← streams program paths
  if found.any fun f => f.2.isEndless then setFlow .stuck
  return (found.map fun f => (f.1, f.2.bytes), allRead)

def byteLines : (fuel : Nat) → List UInt8 → List (List UInt8)
  | 0, _ | _, [] => []
  | fuel + 1, bytes =>
    let line := bytes.takeWhile (· ≠ 10)
    match bytes.drop line.length with
    | [] => [line]
    | b :: rest => (line ++ [b]) :: byteLines fuel rest

def linesOf (bytes : List UInt8) : List (List UInt8) := byteLines (bytes.length + 1) bytes

def writeOut (bytes : List UInt8) : Run Unit := modify fun s => s.write 1 bytes

def cat (args : List String) : Run Nat := do
  let (files, allRead) ← streams "cat" (options [] args).2
  for (_, stream) in files do
    writeOut stream.bytes
    if stream.isEndless then
      modify fun s => s.writeForever stream.cycle
      return 0
  return if allRead then 0 else 1

/-- The count that an option gives, and the sign in front of it. -/
def countOf (text : String) (default : Nat) : Option Char × Nat :=
  match text.toList with
  | '+' :: ds => (some '+', (String.ofList ds).toNat?.getD default)
  | '-' :: ds => (some '-', (String.ofList ds).toNat?.getD default)
  | ds => (none, (String.ofList ds).toNat?.getD default)

def portions (files : List (String × List UInt8)) (os : List (Char × String))
    (pick : {α : Type} → Option Char × Nat → List α → List α) : Run Unit := do
  let mut isFirst := true
  for (path, bytes) in files do
    if 1 < files.length then
      let title := if path = "-" then "standard input" else path
      say ((if isFirst then "==> " else "\n==> ") ++ title ++ " <==\n")
    isFirst := false
    match os.lookup 'c' with
    | some n => writeOut (pick (countOf n 10) bytes)
    | none => writeOut (pick (countOf ((os.lookup 'n').getD "10") 10) (linesOf bytes)).flatten

/-- Prints the first lines or bytes; that many are enough of an endless file. -/
def head (args : List String) : Run Nat := do
  let (os, paths) := options ['n', 'c'] args
  let (files, allRead) ← streams "head" paths
  let count := (countOf ((os.lookup 'c').getD ((os.lookup 'n').getD "10")) 10).2
  let canEnd (f : Stream) : Bool := !f.isEndless || (os.lookup 'c').isSome || f.cycle.contains 10
  if files.any fun f => !canEnd f.2 then setFlow .stuck
  portions (files.map fun f => (f.1, f.2.unrolled count)) os fun count items =>
    match count with
    | (some '-', n) => items.take (items.length - n)
    | (_, n) => items.take n
  return if allRead then 0 else 1

def tail (args : List String) : Run Nat := do
  let (os, paths) := options ['n', 'c'] args
  let (files, allRead) ← contents "tail" paths
  portions files os fun count items =>
    match count with
    | (some '+', n) => items.drop (n - 1)
    | (_, n) => items.drop (items.length - n)
  return if allRead then 0 else 1

def wordCount (bytes : List UInt8) : Nat :=
  let isSpace (b : UInt8) : Bool := b == 32 || (9 ≤ b && b ≤ 13)
  (bytes.foldl (fun (s : Nat × Bool) b =>
    if isSpace b then (s.1, false) else if s.2 then s else (s.1 + 1, true)) (0, false)).1

def padded (width n : Nat) : String :=
  let ds := toString n
  String.ofList (List.replicate (width - ds.length) ' ') ++ ds

/-- Counts lines, words and bytes of files, and of all of them together if there are several. -/
def wc (args : List String) : Run Nat := do
  let (os, paths) := options [] args
  let (files, allRead) ← contents "wc" paths
  let asked := ['l', 'w', 'c'].filter fun c => os.isEmpty || os.any fun o => o.1 == c
  let count (kind : Char) (bytes : List UInt8) : Nat :=
    if kind = 'l' then bytes.count 10 else if kind = 'w' then wordCount bytes else bytes.length
  let counts := files.map fun f => (f.1, asked.map fun c => count c f.2)
  let size := files.foldl (fun n f => n + f.2.length) 0
  let width := if asked.length = 1 && paths.length ≤ 1 then 1
    else if paths.isEmpty then 7 else (toString size).length
  let row (ns : List Nat) (title : String) : Run Unit :=
    say (" ".intercalate (ns.map (padded width)) ++ title ++ "\n")
  counts.forM fun c => row c.2 (if paths.isEmpty then "" else " " ++ c.1)
  if 1 < paths.length then
    row (asked.map fun c => files.foldl (fun n f => n + count c f.2) 0) " total"
  return if allRead then 0 else 1

def literalChar (c : Char) : List Char :=
  if c.isAlphanum || c == ' ' || c == '_' || 128 ≤ c.toNat then [c] else ['\\', c]

/-- A set between brackets, whose backslashes stand for themselves, and what follows it. -/
def bracketSet (isFirst : Bool) : List Char → List Char × List Char
  | [] => ([], [])
  | ']' :: cs =>
    if isFirst then
      let (set, rest) := bracketSet false cs
      ('\\' :: ']' :: set, rest)
    else ([']'], cs)
  | '[' :: ':' :: cs =>
    let (set, rest) := bracketSet false cs
    ('[' :: ':' :: set, rest)
  | ':' :: ']' :: cs =>
    let (set, rest) := bracketSet false cs
    (':' :: ']' :: set, rest)
  | c :: cs =>
    let (set, rest) := bracketSet (isFirst && c == '^') cs
    ((if c == '\\' || c == '[' || c == '&' || c == '~' then ['\\', c] else [c]) ++ set, rest)

/-- A pattern of the search program in the syntax of this library. In a basic pattern groups,
alternatives and counts need a backslash, in an extended one none. -/
def searchPattern (isExtended : Bool) : (fuel : Nat) → (atStart : Bool) → List Char → List Char
  | 0, _, _ | _, _, [] => []
  | fuel + 1, _, '[' :: cs =>
    let (set, rest) := bracketSet true cs
    '[' :: set ++ searchPattern isExtended fuel false rest
  | fuel + 1, _, '\\' :: c :: cs =>
    let isSyntax := ['(', ')', '\x7b', '\x7d', '|', '+', '?'].contains c
    let piece := if isSyntax && !isExtended then [c]
      else if ['w', 'W', 's', 'S', 'b', 'B'].contains c then ['\\', c]
      else literalChar c
    piece ++ searchPattern isExtended fuel (piece = ['('] || piece = ['|']) cs
  | fuel + 1, atStart, c :: cs =>
    let isSyntax := ['(', ')', '\x7b', '\x7d', '|', '+', '?'].contains c
    let piece := if isSyntax then if isExtended then [c] else ['\\', c]
      else if c = '*' && atStart then ['\\', '*']
      else if c = '.' || c = '*' || c = '^' || c = '$' then [c]
      else literalChar c
    piece ++ searchPattern isExtended fuel ((atStart && c = '^') || piece = ['('] || piece = ['|']) cs

/-- The pattern that the options ask for; what it matches is its first group. -/
def searchFor? (os : List (Char × String)) (text : String) : Option Regex.Pattern :=
  let has (c : Char) : Bool := os.any fun o => o.1 == c
  let body := if has 'F' then text.toList.flatMap literalChar
    else searchPattern (has 'E') (text.length + 1) true text.toList
  let body := '(' :: body ++ [')']
  let body := if has 'x' then '^' :: body ++ ['$'] else body
  let body := if has 'w' then "\\b".toList ++ body ++ "\\b".toList else body
  Regex.ofText? (String.ofList (if has 'i' then "(?i)".toList ++ body else body))

def matchedParts (searches : List Regex.Pattern) : (fuel : Nat) → List Char → List (List Char)
  | 0, _ => []
  | fuel + 1, line =>
    let found := searches.filterMap fun p => Regex.bounds? p 1 line
    match (found.mergeSort fun a b => a.1 < b.1 || (a.1 = b.1 && b.2 ≤ a.2)).head? with
    | none => []
    | some (start, stop) =>
      if stop = start then
        match line.drop (start + 1) with
        | [] => []
        | rest => matchedParts searches fuel rest
      else ((line.take stop).drop start) :: matchedParts searches fuel (line.drop stop)

/-- Prints the lines that a pattern matches; status zero if there is one. -/
def grep (args : List String) : Run Nat := do
  let (os, operands) := options ['e', 'm', 'A', 'B', 'C', 'f'] args
  let has (c : Char) : Bool := os.any fun o => o.1 == c
  let (patterns, paths) := match os.filter fun o => o.1 == 'e' with
    | [] => (operands.take 1, operands.drop 1)
    | given => (given.map Prod.snd, operands)
  if patterns.isEmpty then
    complain "Usage: grep [OPTION]... PATTERNS [FILE]..."
    complain "Try 'grep --help' for more information."
    return 2
  match patterns.mapM (searchFor? os) with
  | none => do
    complain "grep: Invalid regular expression"
    return 2
  | some searches => do
    let (files, allRead) ← contents "grep" paths
    let mut found := false
    for (path, bytes) in files do
      let lines := (linesOf bytes).map fun l => if l.getLast? = some 10 then l.dropLast else l
      let hits := lines.zipIdx.filter fun l =>
        (searches.any fun p => (Regex.group? p 1 (Text.decode none l.1)).isSome) != has 'v'
      if !hits.isEmpty then found := true
      let title := if 1 < paths.length && !has 'h' then path ++ ":" else ""
      if has 'q' then pure ()
      else if has 'l' || has 'L' then
        if hits.isEmpty == has 'L' then say (path ++ "\n")
      else if has 'c' then say (title ++ toString hits.length ++ "\n")
      else
        hits.forM fun l => do
          let start := title ++ if has 'n' then toString (l.2 + 1) ++ ":" else ""
          if has 'o' then
            let line := Text.decode none l.1
            (matchedParts searches (line.length + 1) line).forM fun part =>
              say (start ++ String.ofList part ++ "\n")
          else
            say start
            writeOut (l.1 ++ [10])
    return if found && (allRead || has 'q') then 0 else if allRead then 1 else 2

def sort (args : List String) : Run Nat := do
  let (os, paths) := options ['k', 't'] args
  let has (c : Char) : Bool := os.any fun o => o.1 == c
  let (files, allRead) ← contents "sort" paths
  let lines := files.flatMap fun f =>
    (linesOf f.2).map fun l => if l.getLast? = some 10 then l.dropLast else l
  let number (l : List UInt8) : Int :=
    let text := (Text.ofBytes l).trimAsciiStart.toString
    let isNegative := text.startsWith "-"
    let ds := (if isNegative then text.toList.drop 1 else text.toList).takeWhile Char.isDigit
    let n : Int := ((String.ofList ds).toNat?.getD 0 : Nat)
    if isNegative then -n else n
  let upTo (a b : List UInt8) : Bool :=
    if has 'n' && number a != number b then number a < number b else !decide (b < a)
  let ordered := lines.mergeSort upTo
  let ordered := if has 'r' then ordered.reverse else ordered
  let ordered := if has 'u' then ordered.eraseDups else ordered
  if !allRead then return 2
  ordered.forM fun l => writeOut (l ++ [10])
  return 0

def uniq (args : List String) : Run Nat := do
  let (files, allRead) ← contents "uniq" (options [] args).2
  let lines := files.flatMap fun f => linesOf f.2
  let kept := lines.foldr (fun l rest => if rest.head? = some l then rest else l :: rest) []
  kept.forM writeOut
  return if allRead then 0 else 1

def characters : (fuel : Nat) → List Char → List UInt8
  | 0, _ | _, [] => []
  | fuel + 1, '\\' :: c :: cs =>
    if '0' ≤ c && c ≤ '7' then
      let (n, rest) := octal 3 (c :: cs)
      byteOf n :: characters fuel rest
    else (letterEscape? c).getD (byteOf c.toNat) :: characters fuel cs
  | fuel + 1, a :: '-' :: b :: cs =>
    ((List.range (b.toNat + 1 - a.toNat)).map fun i => byteOf (a.toNat + i)) ++ characters fuel cs
  | fuel + 1, c :: cs => Text.toBytes (String.ofList [c]) ++ characters fuel cs

/-- Bytes without those of a set that repeat the byte before them. -/
def squeezed (set : List UInt8) (bytes : List UInt8) : List UInt8 :=
  bytes.foldr (fun b rest => if set.contains b && rest.head? == some b then rest else b :: rest) []

def translate (args : List String) : Run Nat := do
  let (os, sets) := options [] args
  let has (c : Char) : Bool := os.any fun o => o.1 == c
  let set (i : Nat) : List UInt8 :=
    let text := sets.getD i ""
    characters (text.length + 1) text.toList
  let source := if has 'c' || has 'C' then
    (List.range 256).map (byteOf ·) |>.filter fun b => !(set 0).contains b else set 0
  let target := set 1
  let image (b : UInt8) : UInt8 :=
    match source.idxOf? b with
    | some i => (target[i]?.or target.getLast?).getD b
    | none => b
  let change (bytes : List UInt8) : List UInt8 :=
    let changed := if has 'd' then bytes.filter fun b => !source.contains b else bytes.map image
    if has 's' then squeezed (if sets.length = 1 then source else target) changed else changed
  let input ← inputStream
  leaveInput { bytes := [] }
  writeOut (change input.bytes)
  if input.isEndless then modify fun s => s.writeForever (change input.cycle)
  return 0

def isListed (list : String) (n : Nat) : Bool :=
  ((list.split ',').map fun p => p.toString).toList.any fun piece =>
    match ((piece.split '-').map fun p => p.toString).toList with
    | [a] => a.toNat? == some n
    | [a, b] => a.toNat?.getD 1 ≤ n && n ≤ b.toNat?.getD n
    | _ => false

def cut (args : List String) : Run Nat := do
  let (os, paths) := options ['c', 'b', 'f', 'd'] args
  let (files, allRead) ← contents "cut" paths
  let mark := ((os.lookup 'd').bind fun d => (Text.toBytes d).head?).getD 9
  let listed {α : Type} (list : String) (items : List α) : List α :=
    (items.zipIdx.filter fun i => isListed list (i.2 + 1)).map Prod.fst
  for (_, bytes) in files do
    for line in linesOf bytes do
      let line := if line.getLast? = some 10 then line.dropLast else line
      match (os.lookup 'c').or (os.lookup 'b'), os.lookup 'f' with
      | some list, _ => writeOut (listed list line ++ [10])
      | none, some list =>
        if line.contains mark then
          writeOut ((listed list (line.splitOn mark)).intersperse [mark] |>.flatten)
        else writeOut line
        writeOut [10]
      | none, none => pure ()
  return if allRead then 0 else 1

def tee (args : List String) : Run Nat := do
  let (os, paths) := options [] args
  let input ← readInput
  writeOut input
  let mut status := 0
  for path in paths do
    let s ← get
    let old := if os.isEmpty then "" else (s.disk.readText path).toOption.getD ""
    match s.disk.writeText path (old ++ Text.ofBytes input) with
    | .ok disk => set { s with disk }
    | .error e =>
      complain ("tee: " ++ path ++ ": " ++ reason e)
      status := 1
  return status

def rev (args : List String) : Run Nat := do
  let (files, allRead) ← contents "rev" (options [] args).2
  for (_, bytes) in files do
    for line in linesOf bytes do
      let cs := Text.decode none line
      let ends := if cs.getLast? = some '\n' then ['\n'] else []
      say (String.ofList ((cs.take (cs.length - ends.length)).reverse ++ ends))
  return if allRead then 0 else 1

def yes (args : List String) : Run Nat := do
  let text := if args.isEmpty then "y" else " ".intercalate args
  modify fun s => s.writeForever (Text.toBytes (text ++ "\n"))
  return 0

end MutationTesting.Shell
