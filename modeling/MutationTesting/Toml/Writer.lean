import MutationTesting.Toml.Parser
import MutationTesting.Number.Decimal

/-! Writing TOML text.

The pairs of a table come first, then the tables inside it, each under a header and after an empty
line. Absent values are left out. -/
namespace MutationTesting.Toml

inductive StringStyle where
  /-- Between double quotes, with escapes. -/
  | basic
  /-- Between single quotes, as it is. -/
  | literal
  /-- Between three double quotes, with escapes and line ends. -/
  | longBasic
  /-- Between three single quotes, as it is. -/
  | longLiteral
deriving DecidableEq

/-- Length of the longest block of `c`; `here` is the length of the block just before. -/
def longestRun (c : Char) (here : Nat) : List Char → Nat
  | [] => here
  | d :: ds => if d = c then longestRun c (here + 1) ds else max here (longestRun c 0 ds)

def isControl (c : Char) : Bool := c != '\t' && c != '\n' && (c.toNat < 0x20 || c.toNat == 0x7f)

namespace StringStyle

/-- Whether a style can write a text without any escape but those for tabs. -/
def isClean (cs : List Char) : StringStyle → Bool
  | basic => !cs.any fun c => isControl c || c == '\\' || c == '"' || c == '\n'
  | literal => !cs.any fun c => isControl c || c == '\'' || c == '\n'
  | longBasic => !(cs.any fun c => isControl c || c == '\\') && longestRun '"' 0 cs ≤ 2
  | longLiteral => !cs.any isControl && longestRun '\'' 0 cs ≤ 2

/-- The first clean style; without one, escapes between as few quotes as line ends allow. -/
def forText (cs : List Char) : StringStyle :=
  match [basic, literal, longBasic, longLiteral].find? (isClean cs) with
  | some style => style
  | none => if cs.contains '\n' then longBasic else basic

def forKey (cs : List Char) : StringStyle :=
  if cs.any fun c => isControl c || c == '\n' || c == '\\' || c == '"' then
    if cs.any fun c => isControl c || c == '\n' || c == '\'' then basic else literal
  else basic

def delimiter : StringStyle → List Char
  | basic => ['"']
  | literal => ['\'']
  | longBasic => ['"', '"', '"']
  | longLiteral => ['\'', '\'', '\'']

end StringStyle

def hexFour (n : Nat) : List Char :=
  let ds := (Nat.toDigits 16 n).map Char.toUpper
  List.replicate (4 - ds.length) '0' ++ ds

def escapedChar (c : Char) : List Char :=
  if c = '\x08' then ['\\', 'b']
  else if c = '\t' then ['\\', 't']
  else if c = '\x0c' then ['\\', 'f']
  else if c = '\r' then ['\\', 'r']
  else if c = '\\' then ['\\', '\\']
  else if isControl c then '\\' :: 'u' :: hexFour c.toNat
  else [c]

/-- Characters between double quotes. A quote is escaped where it would end the string: after
`room` quotes that may stand side by side. `used` of those stand just before. -/
def escapedText (isLong : Bool) (room used : Nat) : List Char → List Char
  | [] => []
  | '"' :: cs =>
    if used < room then '"' :: escapedText isLong room (used + 1) cs
    else '\\' :: '"' :: escapedText isLong room 0 cs
  | '\n' :: cs => (if isLong then ['\n'] else ['\\', 'n']) ++ escapedText isLong room 0 cs
  | c :: cs => escapedChar c ++ escapedText isLong room 0 cs

def styledText (style : StringStyle) (cs : List Char) : String :=
  let opening := match style with
    | .longBasic | .longLiteral => if cs.contains '\n' then ['\n'] else []
    | _ => []
  let body := match style with
    | .basic => escapedText false 0 0 cs
    | .longBasic => escapedText true 2 0 cs
    | .literal | .longLiteral => cs
  String.ofList (style.delimiter ++ opening ++ body ++ style.delimiter)

def stringText (s : String) : String := styledText (.forText s.toList) s.toList

def keyText (k : String) : String :=
  if !k.isEmpty && k.toList.all isBare then k else styledText (.forKey k.toList) k.toList

/-- A number with at least one decimal place; the sign of what is no number is left out. -/
def realText (x : Binary64) : String := if x.isNaN then "nan" else x.plainText 1

mutual

def valueText : Json → String
  | .null => ""
  | .bool b => if b then "true" else "false"
  | .int i => toString i
  | .real x => realText x
  | .str s => stringText s
  | .arr [] => "[]"
  | .arr [item] => "[" ++ valueText item ++ "]"
  | .arr items => "[\n" ++ itemLines items ++ "]"
  | .obj fields => "\x7b " ++ ", ".intercalate (inlinePairs fields) ++ " \x7d"

def itemLines : List Json → String
  | [] => ""
  | item :: items => "    " ++ valueText item ++ ",\n" ++ itemLines items

def inlinePairs : List (String × Json) → List String
  | [] => []
  | (k, v) :: fields => (keyText k ++ " = " ++ valueText v) :: inlinePairs fields

end

/-- The line of a pair; a table has its own header instead, and an absent value no line. -/
def pairLine (field : String × Json) : String :=
  match field.2 with
  | .null | .obj _ => ""
  | v => keyText field.1 ++ " = " ++ valueText v ++ "\n"

def pairLines (fields : List (String × Json)) : String := String.join (fields.map pairLine)

/-- The header of a table and its pairs. A table that holds tables only needs no header. -/
def ownSection (path : List String) (fields : List (String × Json)) : List String :=
  let pairs := pairLines fields
  if pairs.isEmpty && (path.isEmpty || !fields.isEmpty) then []
  else if path.isEmpty then [pairs]
  else ["[" ++ ".".intercalate (path.map keyText) ++ "]\n" ++ pairs]

mutual

def sections (path : List String) : Json → List String
  | .obj fields => ownSection path fields ++ innerSections path fields
  | _ => []

def innerSections (path : List String) : List (String × Json) → List String
  | [] => []
  | (k, v) :: fields => sections (path ++ [k]) v ++ innerSections path fields

end

def write (table : Json) : String := "\n".intercalate (sections [] table)

end MutationTesting.Toml
