import MutationTesting.Json.Value
import MutationTesting.Number.Decimal
import MutationTesting.Text.Quoted

/-! JSON text, on one line or laid out one item per line. -/
namespace MutationTesting.Json

def stringChar (c : Char) : List Char :=
  if c = '"' then ['\\', '"']
  else if c = '\\' then ['\\', '\\']
  else if c = '\n' then ['\\', 'n']
  else if c = '\r' then ['\\', 'r']
  else if c = '\t' then ['\\', 't']
  else if c = '\x08' then ['\\', 'b']
  else if c = '\x0c' then ['\\', 'f']
  else if c.toNat < 0x20 then
    let ds := Text.hexDigits c.toNat
    '\\' :: 'u' :: List.replicate (4 - ds.length) '0' ++ ds
  else [c]

def stringText (s : String) : String :=
  String.ofList ('"' :: s.toList.flatMap stringChar ++ ['"'])

/-- A value without parts of its own; a double that is no number has no text but `null`. -/
def scalarText : Json → String
  | null => "null"
  | bool b => if b then "true" else "false"
  | int i => toString i
  | real x => if x.isFinite then x.literalText else "null"
  | str s => stringText s
  | arr _ => "[]"
  | obj _ => "\x7b\x7d"

mutual

def compact : Json → String
  | arr items => "[" ++ compactItems items ++ "]"
  | obj fields => "\x7b" ++ compactFields fields ++ "\x7d"
  | null => scalarText null
  | bool b => scalarText (bool b)
  | int i => scalarText (int i)
  | real x => scalarText (real x)
  | str s => scalarText (str s)

def compactItems : List Json → String
  | [] => ""
  | [j] => compact j
  | j :: js => compact j ++ "," ++ compactItems js

def compactFields : List (String × Json) → String
  | [] => ""
  | [(k, v)] => stringText k ++ ":" ++ compact v
  | (k, v) :: rest => stringText k ++ ":" ++ compact v ++ "," ++ compactFields rest

end

def margin (level : Nat) : String := String.ofList (List.replicate (2 * level) ' ')

mutual

/-- The text with every item and field on a line of its own; empty containers take no lines. -/
def pretty (level : Nat) : Json → String
  | arr [] => "[]"
  | arr (j :: js) => "[\n" ++ prettyItems (level + 1) (j :: js) ++ "\n" ++ margin level ++ "]"
  | obj [] => "\x7b\x7d"
  | obj (f :: fs) =>
    "\x7b\n" ++ prettyFields (level + 1) (f :: fs) ++ "\n" ++ margin level ++ "\x7d"
  | null => scalarText null
  | bool b => scalarText (bool b)
  | int i => scalarText (int i)
  | real x => scalarText (real x)
  | str s => scalarText (str s)

def prettyItems (level : Nat) : List Json → String
  | [] => ""
  | [j] => margin level ++ pretty level j
  | j :: js => margin level ++ pretty level j ++ ",\n" ++ prettyItems level js

def prettyFields (level : Nat) : List (String × Json) → String
  | [] => ""
  | [(k, v)] => margin level ++ stringText k ++ ": " ++ pretty level v
  | (k, v) :: rest =>
    margin level ++ stringText k ++ ": " ++ pretty level v ++ ",\n" ++ prettyFields level rest

end

end MutationTesting.Json
