import MutationTesting.Text.Bands

/-! Lines, blank margins and searching, over lists of characters. -/
namespace MutationTesting.Text

/-- Lines end at a line feed, which may follow a carriage return; neither belongs to the line. An
empty rest after the last line feed is no line. -/
def lines : List Char → List (List Char) :=
  go []
where
  /-- `seen` is the current line so far, last character first. -/
  go : List Char → List Char → List (List Char)
    | [], [] => []
    | seen, [] => [seen.reverse]
    | '\r' :: seen, '\n' :: rest => seen.reverse :: go [] rest
    | seen, '\n' :: rest => seen.reverse :: go [] rest
    | seen, c :: rest => go (c :: seen) rest

def trimEnd (cs : List Char) : List Char := (cs.reverse.dropWhile isBlank).reverse

def isAllBlank (s : String) : Bool := s.toList.all isBlank

/-- Whether `needle` occurs, as a block of neighbouring characters; the empty text always does. -/
def occursIn (needle : List Char) : List Char → Bool
  | [] => needle.isEmpty
  | c :: cs => needle.isPrefixOf (c :: cs) || occursIn needle cs

def contains (text needle : String) : Bool := occursIn needle.toList text.toList

/-- Replaces each occurrence of a non-empty `needle`, found from the left without overlap. The
first argument counts the characters of a found occurrence that are still to be dropped. -/
def replaceFrom (needle replacement : List Char) : Nat → List Char → List Char
  | _, [] => []
  | skip + 1, _ :: cs => replaceFrom needle replacement skip cs
  | 0, c :: cs =>
    if needle.isPrefixOf (c :: cs) then
      replacement ++ replaceFrom needle replacement (needle.length - 1) cs
    else c :: replaceFrom needle replacement 0 cs

/-- Every occurrence of `needle` replaced; an empty `needle` occurs nowhere. -/
def replaceAll (text needle replacement : String) : String :=
  if needle.isEmpty then text
  else String.ofList (replaceFrom needle.toList replacement.toList 0 text.toList)

end MutationTesting.Text
