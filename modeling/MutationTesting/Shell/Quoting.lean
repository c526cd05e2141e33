/-! Words of a shell command: how a text is quoted, and how a quoted text is read as words. -/
namespace MutationTesting.Shell

/-- A character of a quoted text. A single quote ends the quotation, stands escaped by itself, and
begins a new quotation. -/
def quotedChar (c : Char) : List Char := if c = '\'' then ['\'', '\\', '\'', '\''] else [c]

def quoteChars (cs : List Char) : List Char := '\'' :: cs.flatMap quotedChar ++ ['\'']

def quote (s : String) : String := String.ofList (quoteChars s.toList)

def isBlank (c : Char) : Bool := c == ' ' || c == '\t' || c == '\n'

abbrev OpenWord := Option (List Char)

def closeWord (w : OpenWord) (rest : List String) : List String :=
  match w with
  | none => rest
  | some seen => String.ofList seen.reverse :: rest

/-- The words of a text. Between single quotes every character stands for itself; outside, so does
the one after a backslash, pieces side by side are one word, and blanks separate words. There are
none if a quotation stays open. -/
def wordsFrom? (isQuoted : Bool) (w : OpenWord) : List Char → Option (List String)
  | [] => if isQuoted then none else some (closeWord w [])
  | '\'' :: cs => wordsFrom? (!isQuoted) (some (w.getD [])) cs
  | '\\' :: c :: cs =>
    if isQuoted then wordsFrom? true (some ('\\' :: w.getD [])) (c :: cs)
    else wordsFrom? false (some (c :: w.getD [])) cs
  | c :: cs =>
    if !isQuoted && isBlank c then (wordsFrom? false none cs).map (closeWord w)
    else wordsFrom? isQuoted (some (c :: w.getD [])) cs

def words? (text : String) : Option (List String) := wordsFrom? false none text.toList

end MutationTesting.Shell
