import MutationTesting.Shell.Syntax
import MutationTesting.Shell.Quoting

/-! Reading commands from their text. Every reader returns what is left of the text. -/
namespace MutationTesting.Shell

private abbrev Rest := List Char

abbrev Fallible := Except SyntaxError

def isMeta (c : Char) : Bool := isBlank c || [';', '&', '|', '<', '>', '(', ')'].contains c

def isNameStart (c : Char) : Bool := c.isAlpha || c == '_'

def isNameChar (c : Char) : Bool := c.isAlphanum || c == '_'

/-- Blanks, continued lines and comments in front of a token. -/
def skipBlanks : List Char → Rest
  | ' ' :: cs | '\t' :: cs | '\\' :: '\n' :: cs => skipBlanks cs
  | '#' :: cs => cs.dropWhile (· ≠ '\n')
  | cs => cs

def skipLines (cs : List Char) : Rest :=
  go (cs.length + 1) cs
where
  go : Nat → List Char → Rest
    | 0, cs => cs
    | n + 1, cs =>
      match skipBlanks cs with
      | '\n' :: cs => go n cs
      | cs => cs

/-- The plain word in front: a reserved word can only be written like this. -/
def plainWord (cs : List Char) : String :=
  let w := cs.takeWhile fun c => !isMeta c
  if w.any fun c => ['\'', '"', '\\', '$', '`'].contains c then "" else String.ofList w

def closingWords : List String := ["then", "else", "elif", "fi", "do", "done", "esac", "\x7d"]

def tokenName (cs : List Char) : String :=
  match skipBlanks cs with
  | [] => "end of file"
  | '\n' :: _ => "newline"
  | ';' :: ';' :: _ => ";;"
  | '&' :: '&' :: _ => "&&"
  | '|' :: '|' :: _ => "||"
  | c :: cs =>
    if isMeta c then String.ofList [c]
    else if closingWords.contains (plainWord (c :: cs)) then plainWord (c :: cs)
    else "word"

/-- How many lines come after the one where the next token stands; a line end belongs to the line
that it begins. -/
def linesAfter (cs : List Char) : Nat :=
  match skipBlanks cs with
  | '\n' :: cs => cs.count '\n'
  | cs => cs.count '\n'

def faulty {α : Type} (fault : SyntaxFault) (cs : List Char := []) : Fallible α :=
  .error ⟨fault, linesAfter cs⟩

def unexpected {α : Type} (cs : List Char) (expecting : Option String := none) : Fallible α :=
  faulty (.unexpected (tokenName cs) expecting) cs

def singleQuoted : List Char → Fallible (String × Rest)
  | cs =>
    let text := cs.takeWhile (· ≠ '\'')
    match cs.drop text.length with
    | _ :: rest => .ok (String.ofList text, rest)
    | [] => faulty .openQuote

/-- Text up to a closing backquote, with the escapes inside undone. -/
def backQuoted (seen : List Char) : List Char → Fallible (List Char × Rest)
  | [] => faulty .openBackquote
  | '`' :: cs => .ok (seen.reverse, cs)
  | '\\' :: c :: cs =>
    if c == '`' || c == '\\' || c == '$' then backQuoted (c :: seen) cs
    else backQuoted (c :: '\\' :: seen) cs
  | c :: cs => backQuoted (c :: seen) cs

def arithmeticText (depth : Nat) (seen : List Char) : List Char → Fallible (List Char × Rest)
  | [] => faulty (.missing "))")
  | ')' :: ')' :: cs =>
    if depth = 0 then .ok (seen.reverse, cs) else arithmeticText (depth - 1) (')' :: seen) (')' :: cs)
  | ')' :: cs => arithmeticText (depth - 1) (')' :: seen) cs
  | '(' :: cs => arithmeticText (depth + 1) ('(' :: seen) cs
  | c :: cs => arithmeticText depth (c :: seen) cs

/-- The text of lines up to a line that is the delimiter, and what follows it. -/
def hereLines (delimiter : List Char) : (fuel : Nat) → List Char → List Char × Rest
  | 0, cs => ([], cs)
  | _ + 1, [] => ([], [])
  | n + 1, cs =>
    let line := cs.takeWhile (· ≠ '\n')
    if line = delimiter then ([], cs.drop (line.length + 1))
    else
      match cs.drop line.length with
      | [] => (line, [])
      | _ :: rest =>
        let (body, rest) := hereLines delimiter n rest
        (line ++ '\n' :: body, rest)

/-- Parameters with a name of one character that is no letter. -/
def isSpecialParameter (c : Char) : Bool := ['?', '$', '#', '!', '@', '*', '-'].contains c || c.isDigit

def parameterName : List Char → List Char × Rest
  | c :: cs =>
    if isNameStart c then (c :: cs.takeWhile isNameChar, cs.dropWhile isNameChar)
    else if c.isDigit then (c :: cs.takeWhile Char.isDigit, cs.dropWhile Char.isDigit)
    else if isSpecialParameter c then ([c], cs)
    else ([], c :: cs)
  | [] => ([], [])

def modifier : List Char → Modifier × Rest
  | ':' :: '-' :: cs => (.default true, cs)
  | '-' :: cs => (.default false, cs)
  | ':' :: '=' :: cs => (.assign true, cs)
  | '=' :: cs => (.assign false, cs)
  | ':' :: '+' :: cs => (.alternative true, cs)
  | '+' :: cs => (.alternative false, cs)
  | '#' :: '#' :: cs => (.dropStart true, cs)
  | '#' :: cs => (.dropStart false, cs)
  | '%' :: '%' :: cs => (.dropEnd true, cs)
  | '%' :: cs => (.dropEnd false, cs)
  | ':' :: '?' :: cs => (.require true, cs)
  | '?' :: cs => (.require false, cs)
  | '\x7d' :: cs => (.plain, '\x7d' :: cs)
  | cs => (.unknown, cs)

/-- A redirection in front: its descriptor and kind. -/
def redirectSign? (cs : List Char) : Option (Nat × RedirectKind × Bool × Rest) :=
  let ds := cs.takeWhile Char.isDigit
  let number (n : Nat) : Nat := if ds.isEmpty then n else (String.ofList ds).toNat?.getD n
  match cs.drop ds.length with
  | '<' :: '<' :: '-' :: cs => some (number 0, .here, true, cs)
  | '<' :: '<' :: cs => some (number 0, .here, false, cs)
  | '<' :: '&' :: cs => some (number 0, .duplicate, false, cs)
  | '<' :: cs => some (number 0, .input, false, cs)
  | '>' :: '>' :: cs => some (number 1, .append, false, cs)
  | '>' :: '&' :: cs => some (number 1, .duplicate, false, cs)
  | '>' :: '|' :: cs => some (number 1, .output, false, cs)
  | '>' :: cs => some (number 1, .output, false, cs)
  | _ => none

def assignment? (cs : List Char) : Option (String × Rest) :=
  let name := cs.takeWhile isNameChar
  match name, cs.drop name.length with
  | c :: _, '=' :: rest => if isNameStart c then some (String.ofList name, rest) else none
  | _, _ => none

def expectWord (word : String) (cs : List Char) : Fallible Rest :=
  let start := skipLines cs
  if plainWord start = word then .ok (start.drop word.length) else unexpected start (some word)

mutual

/-- The pieces of a word; none if no word begins here. `stop` ends the word as well. -/
def parts (stop : Option Char) : (fuel : Nat) → List Char → Fallible (List Part × Rest)
  | 0, _ => faulty .tooDeep
  | _ + 1, [] => .ok ([], [])
  | fuel + 1, c :: cs =>
    if some c == stop || (stop.isNone && isMeta c) then .ok ([], c :: cs)
    else if c = '\\' then
      match cs with
      | '\n' :: cs => parts stop fuel cs
      | d :: cs => do
        let (ps, rest) ← parts stop fuel cs
        return (.quoted (String.ofList [d]) :: ps, rest)
      | [] => .ok ([.plain "\\"], [])
    else if c = '\'' then do
      let (text, rest) ← singleQuoted cs
      let (ps, rest) ← parts stop fuel rest
      return (.quoted text :: ps, rest)
    else if c = '"' then do
      let (inner, rest) ← quotedParts (some '"') fuel cs
      let (ps, rest) ← parts stop fuel (rest.drop 1)
      return (.doubleQuoted inner :: ps, rest)
    else do
      let (p, rest) ← piece false fuel (c :: cs)
      let (ps, rest) ← parts stop fuel rest
      return (p :: ps, rest)

/-- The pieces of a text that is read as between double quotes, up to `stop` or else to the end.
Where an expansion stops the text, double quotes may stand inside it. -/
def quotedParts (stop : Option Char) : (fuel : Nat) → List Char → Fallible (List Part × Rest)
  | 0, _ => faulty .tooDeep
  | _ + 1, [] => if stop == some '"' then faulty .openQuote else .ok ([], [])
  | fuel + 1, c :: cs =>
    if some c == stop then .ok ([], c :: cs)
    else if c = '"' && stop.isSome then do
      let (inner, rest) ← quotedParts (some '"') fuel cs
      let (ps, rest) ← quotedParts stop fuel (rest.drop 1)
      return (.doubleQuoted inner :: ps, rest)
    else if c = '\\' then
      match cs with
      | '\n' :: cs => quotedParts stop fuel cs
      | d :: cs => do
        let text := if ['$', '`', '"', '\\'].contains d || some d == stop then [d] else ['\\', d]
        let (ps, rest) ← quotedParts stop fuel cs
        return (.quoted (String.ofList text) :: ps, rest)
      | [] => quotedParts stop fuel []
    else do
      let (p, rest) ← piece true fuel (c :: cs)
      let (ps, rest) ← quotedParts stop fuel rest
      return (p :: ps, rest)

def piece (isQuoted : Bool) : (fuel : Nat) → List Char → Fallible (Part × Rest)
  | 0, _ => faulty .tooDeep
  | fuel + 1, '`' :: cs => do
    let (text, rest) ← backQuoted [] cs
    let (command, _) ← commandList false fuel text
    return (.output command, rest)
  | fuel + 1, '$' :: '(' :: '(' :: cs => do
    let (text, rest) ← arithmeticText 0 [] cs
    let (ps, _) ← quotedParts none fuel text
    return (.arithmetic ps, rest)
  | fuel + 1, '$' :: '(' :: cs => do
    let (command, rest) ← commandList false fuel cs
    match skipBlanks rest with
    | ')' :: rest => return (.output command, rest)
    | rest => unexpected rest (some ")")
  | fuel + 1, '$' :: '\x7b' :: cs =>
    let (start, isLength) := match cs with
      | '#' :: '\x7d' :: _ => (cs, false)
      | '#' :: cs => (cs, true)
      | cs => (cs, false)
    let (name, rest) := parameterName start
    let (m, rest) := if isLength then (.length, rest) else modifier rest
    let m := if name.isEmpty then .unknown else m
    do
      let (argument, rest) ← match m with
        | .dropStart _ | .dropEnd _ => parts (some '\x7d') fuel rest
        | _ => if isQuoted then quotedParts (some '\x7d') fuel rest else parts (some '\x7d') fuel rest
      match rest with
      | '\x7d' :: rest => return (.parameter (String.ofList name) m argument, rest)
      | _ => faulty (if isQuoted then .openQuote else .missing "\x7d")
  | _ + 1, '$' :: c :: cs =>
    if isNameStart c then
      .ok (.parameter (String.ofList (c :: cs.takeWhile isNameChar)) .plain [],
        cs.dropWhile isNameChar)
    else if isSpecialParameter c then .ok (.parameter (String.ofList [c]) .plain [], cs)
    else .ok (.plain "$", c :: cs)
  | _ + 1, c :: cs => .ok (.plain (String.ofList [c]), cs)
  | _ + 1, [] => .ok (.plain "", [])

def redirect (fuel : Nat) (n : Nat) (kind : RedirectKind) (isIndented : Bool) (cs : List Char) :
    Fallible (Redirect × Rest) :=
  match fuel with
  | 0 => faulty .tooDeep
  | fuel + 1 => do
    let start := skipBlanks cs
    let (target, rest) ← parts none fuel start
    if target.isEmpty then unexpected start
    else if kind == .here then
      let written := start.take (start.length - rest.length)
      let delimiter := written.filter fun c => c != '\'' && c != '"' && c != '\\'
      let line := rest.takeWhile (· ≠ '\n')
      let body := rest.drop (line.length + 1)
      let (text, after) := hereLines delimiter (body.length + 1)
        (if isIndented then body.filter (· ≠ '\t') else body)
      if written = delimiter then
        let (ps, _) ← quotedParts none fuel text
        return (.mk n kind ps, line ++ '\n' :: after)
      else return (.mk n kind [.quoted (String.ofList text)], line ++ '\n' :: after)
    else return (.mk n kind target, rest)

def redirects : (fuel : Nat) → List Char → Fallible (List Redirect × Rest)
  | 0, _ => faulty .tooDeep
  | fuel + 1, cs =>
    match redirectSign? (skipBlanks cs) with
    | none => .ok ([], cs)
    | some (n, kind, isIndented, rest) => do
      let (r, rest) ← redirect fuel n kind isIndented rest
      let (rs, rest) ← redirects fuel rest
      return (r :: rs, rest)

/-- Assignments, words and redirections up to the end of a simple command; `line` is where it
began. -/
def simple (line : Nat) (assignments : List (String × List Part)) (words : List (List Part))
    (reds : List Redirect) : (fuel : Nat) → List Char → Fallible (Command × Rest)
  | 0, _ => faulty .tooDeep
  | fuel + 1, cs =>
    let start := skipBlanks cs
    match redirectSign? start with
    | some (n, kind, isIndented, rest) => do
      let (r, rest) ← redirect fuel n kind isIndented rest
      simple line assignments words (reds ++ [r]) fuel rest
    | none =>
      match if words.isEmpty then assignment? start else none with
      | some (name, rest) => do
        let (value, rest) ← parts none fuel rest
        simple line (assignments ++ [(name, value)]) words reds fuel rest
      | none => do
        let (word, rest) ← parts none fuel start
        if word.isEmpty then
          if assignments.isEmpty && words.isEmpty && reds.isEmpty then unexpected start
          else return (.simple line assignments words reds, start)
        else simple line assignments (words ++ [word]) reds fuel rest

def wordList : (fuel : Nat) → List Char → Fallible (List (List Part) × Rest)
  | 0, _ => faulty .tooDeep
  | fuel + 1, cs => do
    let start := skipBlanks cs
    let (word, rest) ← parts none fuel start
    if word.isEmpty then return ([], start)
    else
      let (ws, rest) ← wordList fuel rest
      return (word :: ws, rest)

def branchRest : (fuel : Nat) → List Char → Fallible ((Command × Command) × Rest)
  | 0, _ => faulty .tooDeep
  | fuel + 1, cs => do
    let cs ← expectWord "then" cs
    let (body, cs) ← commandList false fuel cs
    let start := skipLines cs
    match plainWord start with
    | "elif" => do
      let (condition, cs) ← commandList false fuel (start.drop 4)
      let ((inner, otherwise), cs) ← branchRest fuel cs
      return ((body, .branch condition inner otherwise), cs)
    | "else" => do
      let (otherwise, cs) ← commandList false fuel (start.drop 4)
      let cs ← expectWord "fi" cs
      return ((body, otherwise), cs)
    | _ => do
      let cs ← expectWord "fi" cs
      return ((body, .nothing), cs)

def armPatterns : (fuel : Nat) → List Char → Fallible (List (List Part) × Rest)
  | 0, _ => faulty .tooDeep
  | fuel + 1, cs => do
    let start := skipBlanks cs
    let (p, rest) ← parts none fuel start
    if p.isEmpty then unexpected start (if start.isEmpty then some ")" else none)
    else
      match skipBlanks rest with
      | '|' :: rest => do
        let (ps, rest) ← armPatterns fuel rest
        return (p :: ps, rest)
      | ')' :: rest => return ([p], rest)
      | rest => unexpected rest (some ")")

def arms : (fuel : Nat) → List Char → Fallible ((List (List (List Part) × Command)) × Rest)
  | 0, _ => faulty .tooDeep
  | fuel + 1, cs =>
    let start := skipLines cs
    if plainWord start = "esac" then .ok ([], start.drop 4)
    else do
      let start := match start with
        | '(' :: rest => rest
        | rest => rest
      let (ps, rest) ← armPatterns fuel start
      let (body, rest) ← commandList false fuel rest
      match skipLines rest with
      | ';' :: ';' :: rest => do
        let (more, rest) ← arms fuel rest
        return ((ps, body) :: more, rest)
      | rest => do
        let rest ← expectWord "esac" rest
        return ([(ps, body)], rest)

def loopBody (fuel : Nat) (cs : List Char) : Fallible (Command × Rest) :=
  match fuel with
  | 0 => faulty .tooDeep
  | fuel + 1 => do
    let cs ← expectWord "do" cs
    let (body, cs) ← commandList false fuel cs
    let cs ← expectWord "done" cs
    return (body, cs)

def compound? : (fuel : Nat) → List Char → Fallible (Option (Command × List Char))
  | 0, _ => faulty .tooDeep
  | fuel + 1, cs =>
    match cs, plainWord cs with
    | '(' :: cs, _ => do
      let (command, rest) ← commandList false fuel cs
      match skipLines rest with
      | ')' :: rest => return some (.subshell command, rest)
      | rest => unexpected rest (some ")")
    | cs, "\x7b" => do
      let (command, rest) ← commandList false fuel (cs.drop 1)
      let rest ← expectWord "\x7d" rest
      return some (command, rest)
    | cs, "if" => do
      let (condition, cs) ← commandList false fuel (cs.drop 2)
      let ((body, otherwise), cs) ← branchRest fuel cs
      return some (.branch condition body otherwise, cs)
    | cs, "while" => do
      let (condition, cs) ← commandList false fuel (cs.drop 5)
      let (body, cs) ← loopBody fuel cs
      return some (.loop false condition body, cs)
    | cs, "until" => do
      let (condition, cs) ← commandList false fuel (cs.drop 5)
      let (body, cs) ← loopBody fuel cs
      return some (.loop true condition body, cs)
    | cs, "for" => do
      let cs := skipBlanks (cs.drop 3)
      let name := cs.takeWhile isNameChar
      if name.isEmpty then faulty .badLoopName cs
      let cs := skipLines (cs.drop name.length)
      if plainWord cs = "in" then
        let (ws, cs) ← wordList fuel (cs.drop 2)
        let (body, cs) ← loopBody fuel (cs.drop (if cs.head? = some ';' then 1 else 0))
        return some (.each (String.ofList name) ws body, cs)
      else
        let (body, cs) ← loopBody fuel (cs.drop (if cs.head? = some ';' then 1 else 0))
        return some (.each (String.ofList name) [[.doubleQuoted [.parameter "@" .plain []]]] body, cs)
    | cs, "case" => do
      let (word, cs) ← parts none fuel (skipBlanks (cs.drop 4))
      let cs ← expectWord "in" cs
      let (as, cs) ← arms fuel cs
      return some (.choose word as, cs)
    | cs, word =>
      let rest := skipBlanks (cs.drop word.length)
      match rest with
      | '(' :: rest =>
        match word, skipBlanks rest with
        | "", _ => .ok none
        | name, ')' :: rest => do
          let (body, rest) ← command fuel (skipLines rest)
          return some (.define name body, rest)
        | _, rest => unexpected rest (some ")")
      | _ =>
        if closingWords.contains word then unexpected cs else .ok none

def command : (fuel : Nat) → List Char → Fallible (Command × Rest)
  | 0, _ => faulty .tooDeep
  | fuel + 1, cs => do
    let start := skipBlanks cs
    match ← compound? fuel start with
    | some (c, rest) => do
      let (rs, rest) ← redirects fuel rest
      return (if rs.isEmpty then c else .redirected c rs, rest)
    | none => simple (linesAfter start) [] [] [] fuel start

def piped : (fuel : Nat) → List Char → Fallible (List Command × Rest)
  | 0, _ => faulty .tooDeep
  | fuel + 1, cs => do
    let (c, rest) ← command fuel cs
    match skipBlanks rest with
    | '|' :: '|' :: rest => return ([c], '|' :: '|' :: rest)
    | '|' :: rest => do
      let (more, rest) ← piped fuel (skipLines rest)
      return (c :: more, rest)
    | rest => return ([c], rest)

def pipeline (fuel : Nat) (cs : List Char) : Fallible (Command × Rest) :=
  match fuel with
  | 0 => faulty .tooDeep
  | fuel + 1 => do
    let start := skipBlanks cs
    let isNegated := plainWord start = "!"
    let (commands, rest) ← piped fuel (if isNegated then start.drop 1 else start)
    let joined := match commands with
      | [c] => c
      | cs => .pipeline cs
    return (if isNegated then .negation joined else joined, rest)

/-- Pipelines joined by the signs for "and" and "or", which bind equally and to the left. -/
def joined (first : Command) : (fuel : Nat) → List Char → Fallible (Command × Rest)
  | 0, _ => faulty .tooDeep
  | fuel + 1, cs =>
    match skipBlanks cs with
    | '&' :: '&' :: rest => do
      let (c, rest) ← pipeline fuel (skipLines rest)
      joined (.both first c) fuel rest
    | '|' :: '|' :: rest => do
      let (c, rest) ← pipeline fuel (skipLines rest)
      joined (.either first c) fuel rest
    | rest => .ok (first, rest)

/-- Commands up to the end of the text or a word or sign that ends a list, or, with `isLine`, to the
end of the line. -/
def commandList (isLine : Bool) : (fuel : Nat) → List Char → Fallible (Command × Rest)
  | 0, _ => faulty .tooDeep
  | fuel + 1, cs =>
    match skipLines cs with
    | [] => .ok (.nothing, [])
    | ')' :: rest => .ok (.nothing, ')' :: rest)
    | ';' :: ';' :: rest => .ok (.nothing, ';' :: ';' :: rest)
    | start =>
      if closingWords.contains (plainWord start) then .ok (.nothing, start)
      else do
        let (first, rest) ← pipeline fuel start
        let (c, rest) ← joined first fuel rest
        let continueWith (c : Command) (rest : List Char) : Fallible (Command × Rest) := do
          if isLine && (skipBlanks rest).head? == some '\n' then return (.sequence [c], rest)
          let (more, rest) ← commandList isLine fuel rest
          match more with
          | .sequence cs => return (.sequence (c :: cs), rest)
          | other => return (.sequence [c, other], rest)
        match skipBlanks rest with
        | ';' :: ';' :: rest => return (.sequence [c], ';' :: ';' :: rest)
        | ';' :: rest => continueWith c rest
        | '\n' :: rest =>
          if isLine then return (.sequence [c], '\n' :: rest) else continueWith c rest
        | '&' :: rest => continueWith (.background c) rest
        | rest => return (.sequence [c], rest)

end

/-- The commands of the first line that has any, which may go on over further lines, and the text
after them. -/
def Command.next? (cs : List Char) : Fallible (Option (Command × List Char)) :=
  match skipLines cs with
  | [] => .ok none
  | start => do
    let (c, rest) ← commandList true (16 * start.length + 64) start
    match skipBlanks rest with
    | [] => return some (c, [])
    | '\n' :: rest => return some (c, rest)
    | rest => unexpected rest

end MutationTesting.Shell
