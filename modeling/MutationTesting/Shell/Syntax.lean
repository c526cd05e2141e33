/-! Commands of the shell that runs the tests. -/
namespace MutationTesting.Shell

inductive Modifier where
  | plain
  | length
  /-- Another text where the value is unset, or empty if `orEmpty`. -/
  | default (orEmpty : Bool)
  /-- The same, and the parameter is set to it. -/
  | assign (orEmpty : Bool)
  /-- Another text where there is a value. -/
  | alternative (orEmpty : Bool)
  /-- A failure with a message where there is no value. -/
  | require (orEmpty : Bool)
  /-- Without the shortest or longest beginning that matches. -/
  | dropStart (longest : Bool)
  /-- Without the shortest or longest end that matches. -/
  | dropEnd (longest : Bool)
  /-- No modifier; a command can only fail with it. -/
  | unknown
deriving DecidableEq

inductive RedirectKind where
  | input
  | output
  | append
  /-- A copy of another descriptor. -/
  | duplicate
  /-- Input from the script itself. -/
  | here
deriving DecidableEq

mutual

inductive Part where
  | plain (text : String)
  | quoted (text : String)
  | doubleQuoted (parts : List Part)
  | parameter (name : String) (modifier : Modifier) (argument : List Part)
  /-- The output of a command. -/
  | output (command : Command)
  | arithmetic (parts : List Part)

inductive Redirect where
  | mk (descriptor : Nat) (kind : RedirectKind) (target : List Part)

inductive Command where
  /-- So many lines come after the one where the command begins. -/
  | simple (linesAfter : Nat) (assignments : List (String × List Part)) (words : List (List Part))
      (redirects : List Redirect)
  /-- Each command reads what the one before it writes. -/
  | pipeline (commands : List Command)
  | negation (command : Command)
  /-- The second command runs if the first succeeds. -/
  | both (first second : Command)
  /-- The second command runs if the first fails. -/
  | either (first second : Command)
  | sequence (commands : List Command)
  | background (command : Command)
  /-- Changes of variables inside stay inside. -/
  | subshell (command : Command)
  | redirected (command : Command) (redirects : List Redirect)
  | branch (condition body otherwise : Command)
  /-- Repeats while the condition succeeds, or fails if `isUntil`. -/
  | loop (isUntil : Bool) (condition body : Command)
  | each (name : String) (words : List (List Part)) (body : Command)
  /-- The commands behind the first pattern that the word matches. -/
  | choose (word : List Part) (arms : List (List (List Part) × Command))
  | define (name : String) (body : Command)

end

def Command.nothing : Command := .sequence []

instance : Inhabited Command := ⟨.nothing⟩

instance : Inhabited Part := ⟨.plain ""⟩

inductive SyntaxFault where
  | openQuote
  | openBackquote
  /-- The text ends before something that closes. -/
  | missing (closing : String)
  /-- `"newline"`, `"word"` and `"end of file"` stand for themselves; other tokens are shown
  between quotes. -/
  | unexpected (token : String) (expecting : Option String)
  | badLoopName
  /-- The text nests too deep. -/
  | tooDeep
deriving DecidableEq

/-- A fault, and how many lines come after it. -/
structure SyntaxError where
  fault : SyntaxFault
  linesAfter : Nat := 0
deriving DecidableEq

def SyntaxFault.message : SyntaxFault → String
  | openQuote => "Syntax error: Unterminated quoted string"
  | openBackquote => "Syntax error: EOF in backquote substitution"
  | missing closing => "Syntax error: Missing '" ++ closing ++ "'"
  | unexpected token expecting =>
    let shown :=
      if ["end of file", "newline", "word"].contains token then token else "\"" ++ token ++ "\""
    "Syntax error: " ++ shown ++ " unexpected" ++
      match expecting with
      | some t => " (expecting \"" ++ t ++ "\")"
      | none => ""
  | badLoopName => "Syntax error: Bad for loop variable"
  | tooDeep => "Syntax error: too deep"

end MutationTesting.Shell
