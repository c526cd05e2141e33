import MutationTesting.Text.Utf8

/-! Byte offsets into the UTF-8 form of a text, cut only between characters.

Spans and output limits count bytes. A cut that would fall inside a character, or past the end,
does not exist; nothing here ever splits a character. -/
namespace MutationTesting.Text

def byteSize : List Char → Nat
  | [] => 0
  | c :: cs => c.utf8Size + byteSize cs

/-- Cuts after exactly `n` bytes, when that is a character boundary. -/
def splitAtByte? : Nat → List Char → Option (List Char × List Char)
  | 0, cs => some ([], cs)
  | _ + 1, [] => none
  | n + 1, c :: cs =>
    if c.utf8Size ≤ n + 1 then
      (splitAtByte? (n + 1 - c.utf8Size) cs).map fun p => (c :: p.1, p.2)
    else none

/-- A text in three parts around a span. -/
structure Cut where
  before : String
  inside : String
  after : String
deriving DecidableEq

/-- The three parts around the bytes from `start` up to `stop`; none when the span is inverted,
runs past the end or starts or ends inside a character. -/
def cut? (text : String) (start stop : Nat) : Option Cut :=
  if start ≤ stop then
    (splitAtByte? start text.toList).bind fun p =>
      (splitAtByte? (stop - start) p.2).map fun q =>
        ⟨String.ofList p.1, String.ofList q.1, String.ofList q.2⟩
  else none

def slice? (text : String) (start stop : Nat) : Option String :=
  (cut? text start stop).map Cut.inside

/-- A text of at most `max` bytes as it is; a longer one cut at the last boundary within the
allowance and marked. The mark itself does not count. None if no such boundary is found, or if it is
no place at which the text can be cut. -/
def truncate? (text : String) (max : Nat) : Option String :=
  if byteSize text.toList ≤ max then some text
  else do
    let stop ← boundaryFrom? (toBytes text) max
    let kept ← slice? text 0 stop
    return kept ++ "...(truncated)"

/-- There always is a boundary, so that no text is left as it is for lack of one. -/
def truncate (text : String) (max : Nat) : String := (truncate? text max).getD text

end MutationTesting.Text
