/-! Texts as bytes. -/
namespace MutationTesting.Text

def toBytes (s : String) : List UInt8 := s.toUTF8.toList

/-- A byte that goes on with a character which an earlier byte has begun. -/
def isContinuation (b : UInt8) : Bool := 0x80 ≤ b.toNat && b.toNat < 0xC0

/-- Whether a text of these bytes can be cut after the first `n` of them: at its ends, and where the
next byte begins a character. -/
def isBoundary (bytes : List UInt8) (n : Nat) : Bool :=
  n == 0 || match bytes[n]? with
    | some b => !isContinuation b
    | none => n == bytes.length

/-- The last boundary that is not behind byte `n`, looked for byte by byte from there to the front;
none if the search would have to go on from the front. -/
def boundaryFrom? (bytes : List UInt8) : Nat → Option Nat
  | 0 => if isBoundary bytes 0 then some 0 else none
  | n + 1 => if isBoundary bytes (n + 1) then some (n + 1) else boundaryFrom? bytes n

/-- What a first byte promises: how many bytes follow it, its own bits, and the range of the
second byte. -/
def leadByte? (b : UInt8) : Option (Nat × Nat × Nat × Nat) :=
  let n := b.toNat
  if n < 0x80 then some (0, n, 0, 0)
  else if 0xC2 ≤ n && n ≤ 0xDF then some (1, n - 0xC0, 0x80, 0xBF)
  else if n = 0xE0 then some (2, 0, 0xA0, 0xBF)
  else if n = 0xED then some (2, 0xD, 0x80, 0x9F)
  else if 0xE1 ≤ n && n ≤ 0xEF then some (2, n - 0xE0, 0x80, 0xBF)
  else if n = 0xF0 then some (3, 0, 0x90, 0xBF)
  else if 0xF1 ≤ n && n ≤ 0xF3 then some (3, n - 0xF0, 0x80, 0xBF)
  else if n = 0xF4 then some (3, 4, 0x80, 0x8F)
  else none

/-- A character that still lacks `more` bytes: its bits so far and the range of the next byte. -/
structure Unfinished where
  more : Nat
  bits : Nat
  low : Nat
  high : Nat

def replacement : Char := '\ufffd'

/-- Reads bytes as characters. The longest beginning of a character that breaks off is replaced as a
whole, and so is every byte that begins none. -/
def decode : Option Unfinished → List UInt8 → List Char
  | none, [] => []
  | some _, [] => [replacement]
  | none, b :: bs =>
    match leadByte? b with
    | none => replacement :: decode none bs
    | some (0, bits, _, _) => Char.ofNat bits :: decode none bs
    | some (more + 1, bits, low, high) => decode (some ⟨more + 1, bits, low, high⟩) bs
  | some u, b :: bs =>
    let n := b.toNat
    if u.low ≤ n && n ≤ u.high then
      let bits := 64 * u.bits + (n - 0x80)
      if u.more ≤ 1 then Char.ofNat bits :: decode none bs
      else decode (some ⟨u.more - 1, bits, 0x80, 0xBF⟩) bs
    else
      match leadByte? b with
      | none => replacement :: replacement :: decode none bs
      | some (0, bits, _, _) => replacement :: Char.ofNat bits :: decode none bs
      | some (more + 1, bits, low, high) => replacement :: decode (some ⟨more + 1, bits, low, high⟩) bs

def ofBytes (bs : List UInt8) : String := String.ofList (decode none bs)

end MutationTesting.Text
