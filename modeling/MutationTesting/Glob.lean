/-! Glob patterns for scopes, matched byte by byte.

`*` and `?` stand for anything but a slash, `**` as a whole component for any number of components,
`[a-z]` and `[!a-z]` for one byte, `{a,b}` for one of several patterns, a backslash takes the next
byte literally and a leading `!` turns the answer around. Of several alternatives in braces the one
that reaches furthest counts. A malformed pattern matches nothing.

The matcher keeps, beside its two positions, the last star it passed and the last double star: when
it is stuck, it lets that star take one more byte. -/
namespace MutationTesting.Glob

private abbrev Bytes := Array UInt8

private def byte (c : Char) : UInt8 := c.toUInt8

/-- Where to go on from a star: behind it in the pattern, and in the text once the star takes one
more byte. Text position zero stands for no star. -/
structure Star where
  pattern : Nat := 0
  text : Nat := 0

structure State where
  text : Nat := 0
  pattern : Nat := 0
  star : Star := {}
  doubleStar : Star := {}

/-- The open braces, innermost first, each with the state in front of it, and how far the
alternatives tried so far have reached. -/
structure Braces where
  enclosing : List State := []
  longest : Nat := 0

def maxNesting : Nat := 10

/-- Behind the double stars that directly follow another one. -/
def skipDoubleStars (glob : Bytes) : (fuel position : Nat) → Nat
  | 0, i => i
  | fuel + 1, i =>
    if glob[i]? == some (byte '/') && glob[i + 1]? == some (byte '*')
        && glob[i + 2]? == some (byte '*') then
      skipDoubleStars glob fuel (i + 3)
    else i

/-- The byte at a position and the position of its last byte; an escape takes two. None when
nothing follows the backslash. -/
def literalAt (glob : Bytes) (i : Nat) : Option (UInt8 × Nat) :=
  match glob[i]? with
  | none => none
  | some c =>
    if c = byte '\\' then
      match glob[i + 1]? with
      | none => none
      | some d =>
        let d :=
          if d = byte 'a' then 0x61
          else if d = byte 'b' then 0x08
          else if d = byte 'n' then 0x0a
          else if d = byte 'r' then 0x0d
          else if d = byte 't' then 0x09
          else d
        some (d, i + 1)
    else some (c, i)

inductive Skipped where
  | invalid
  | comma
  | closed

/-- Goes to the end of the current alternative, or of the braces. -/
def skipAlternative (glob : Bytes) (stopAtComma : Bool) :
    (fuel position depth : Nat) → (inBrackets : Bool) → Skipped × Nat
  | 0, i, _, _ => (.invalid, i)
  | _ + 1, i, 0, _ => (.closed, i)
  | fuel + 1, i, depth + 1, inBrackets =>
    let skip := skipAlternative glob stopAtComma fuel
    match glob[i]? with
    | none => (.invalid, i)
    | some c =>
      if c = byte '{' && !inBrackets then skip (i + 1) (depth + 2) inBrackets
      else if c = byte '}' && !inBrackets then skip (i + 1) depth inBrackets
      else if c = byte ',' && stopAtComma && depth = 0 && !inBrackets then (.comma, i + 1)
      else if c = byte '*' && !inBrackets then
        if glob[i + 1]? == some (byte '*') then
          skip (skipDoubleStars glob glob.size (i + 2)) (depth + 1) inBrackets
        else skip (i + 1) (depth + 1) inBrackets
      else if c = byte '[' && !inBrackets then skip (i + 1) (depth + 1) true
      else if c = byte ']' then skip (i + 1) (depth + 1) false
      else if c = byte '\\' then skip (i + 2) (depth + 1) inBrackets
      else skip (i + 1) (depth + 1) inBrackets

/-- Reads the ranges of a byte class up to its closing bracket: whether the byte is in one of them,
and the position behind the bracket. None when the class is not closed. -/
def matchClass (glob : Bytes) (c : UInt8) : (fuel position : Nat) → (first hit : Bool) →
    Option (Bool × Nat)
  | 0, _, _, _ => none
  | fuel + 1, i, first, hit =>
    match glob[i]? with
    | none => none
    | some b =>
      if !first && b = byte ']' then some (hit, i + 1)
      else do
        let (low, i) ← literalAt glob i
        let i := i + 1
        let isRange := glob[i]? == some (byte '-') &&
          (match glob[i + 1]? with
            | some d => d != byte ']'
            | none => false)
        if isRange then
          let (high, j) ← literalAt glob (i + 1)
          matchClass glob c fuel (j + 1) false (hit || (low ≤ c && c ≤ high))
        else matchClass glob c fuel i false (hit || low == c)

inductive Step where
  | next (state : State) (braces : Braces)
  | stuck (state : State) (braces : Braces)
  | malformed

/-- Leaves the innermost braces with the furthest of their matches. -/
def closeBraces (s : State) (b : Braces) : State × Braces :=
  match b.enclosing with
  | [] => (s, b)
  | outer :: rest =>
    ({ text := b.longest, pattern := s.pattern, star := outer.star, doubleStar := outer.doubleStar },
      { enclosing := rest, longest := if rest.isEmpty then 0 else b.longest })

def atSlash (text : Bytes) (i : Nat) : Bool := text[i]? == some (byte '/')

def stepStar (glob text : Bytes) (s : State) (b : Braces) : Step :=
  let isDouble := glob[s.pattern + 1]? == some (byte '*')
  let start := if isDouble then skipDoubleStars glob glob.size (s.pattern + 2) - 2 else s.pattern
  let star : Star := ⟨start, s.text + 1⟩
  let s := { s with pattern := start, star := star }
  let s :=
    if isDouble then
      let i := start + 2
      if glob.size = i then { s with pattern := i, doubleStar := star }
      else if (i < 3 || glob[i - 3]? == some (byte '/')) && glob[i]? == some (byte '/') then
        let optional :=
          s.text = 0 || (decide (s.text < text.size) && atSlash text (s.text - 1))
        { s with pattern := if optional then i + 1 else i, doubleStar := star }
      else { s with pattern := i }
    else { s with pattern := start + 1 }
  let s :=
    if s.doubleStar.text ≠ s.star.text && atSlash text s.text then
      if 0 < s.doubleStar.text && s.text + 1 < text.size then
        { s with
          pattern := s.doubleStar.pattern
          star := { s.star with pattern := s.doubleStar.pattern } }
      else { s with star := { s.star with text := 0 } }
    else s
  let next := glob[s.pattern]?
  if !b.enclosing.isEmpty && (next == some (byte ',') || next == some (byte '}')) then
    match skipAlternative glob false (2 * glob.size + 2) s.pattern 1 false with
    | (.invalid, _) => .malformed
    | (_, i) => .next { s with pattern := i } b
  else .next s b

/-- The pattern byte at the current position, tried on the text. -/
def stepPattern (glob text : Bytes) (s : State) (b : Braces) (c : UInt8) : Step :=
  if c = byte '*' then stepStar glob text s b
  else
    match text[s.text]?, decide (c = byte '}') && !b.enclosing.isEmpty,
      decide (c = byte ',') && !b.enclosing.isEmpty with
    | some t, false, false =>
      if c = byte '?' then
        if t ≠ byte '/' then .next { s with pattern := s.pattern + 1, text := s.text + 1 } b
        else .stuck s b
      else if c = byte '[' then
        let i := s.pattern + 1
        let negated := glob[i]? == some (byte '^') || glob[i]? == some (byte '!')
        match matchClass glob t (glob.size + 1) (if negated then i + 1 else i) true false with
        | none => .malformed
        | some (hit, i) =>
          if hit != negated then .next { s with pattern := i, text := s.text + 1 } b
          else .stuck { s with pattern := i } b
      else if c = byte '{' then
        if maxNesting ≤ b.enclosing.length then .malformed
        else .next { text := s.text, pattern := s.pattern + 1 } { b with enclosing := s :: b.enclosing }
      else
        match literalAt glob s.pattern with
        | none => .malformed
        | some (d, i) =>
          let s := { s with pattern := i }
          if t = d then
            let (s, b) :=
              if !b.enclosing.isEmpty && 0 < s.pattern && glob[s.pattern - 1]? == some (byte '}') then
                closeBraces s { b with longest := s.text }
              else (s, b)
            let doubleStar :=
              if d ≠ byte '/' then { s.doubleStar with text := 0 } else s.doubleStar
            .next { s with pattern := s.pattern + 1, text := s.text + 1, doubleStar := doubleStar } b
          else .stuck s b
    | _, true, _ =>
      let b := { b with longest := max b.longest s.text }
      let (s, b) := closeBraces { s with pattern := s.pattern + 1 } b
      .next s b
    | _, _, true =>
      match b.enclosing with
      | outer :: _ =>
        .next { text := outer.text, pattern := s.pattern + 1 }
          { b with longest := max b.longest s.text }
      | [] => .stuck s b
    | none, false, false => .stuck s b

/-- Back to the last star, which takes one more byte, if there is one and a byte is left. -/
def backtrack? (text : Bytes) (s : State) : Option State :=
  if 0 < s.star.text && s.star.text ≤ text.size then
    some { s with pattern := s.star.pattern, text := s.star.text }
  else none

/-- Where to go on when the pattern does not fit the text, if anywhere. -/
inductive Recovery where
  | resume (state : State) (braces : Braces)
  | hopeless
  | malformed

/-- Goes on from the last star, with the next alternative, with the best of the alternatives, or
from the last star in front of the braces. -/
def recover (glob text : Bytes) (s : State) (b : Braces) : Recovery :=
  match backtrack? text s with
  | some s => .resume s b
  | none =>
    match b.enclosing with
    | [] => .hopeless
    | outer :: rest =>
      match skipAlternative glob true (2 * glob.size + 2) s.pattern 1 false with
      | (.invalid, _) => .malformed
      | (.comma, i) => .resume { s with pattern := i, text := outer.text } b
      | (.closed, i) =>
        if 0 < b.longest then
          let (s, b) := closeBraces { s with pattern := i } b
          .resume s b
        else
          match backtrack? text outer with
          | some s => .resume s { b with enclosing := rest }
          | none => .hopeless

/-- Steps until pattern and text are both used up; none when the pattern is malformed. -/
def run (glob text : Bytes) : (fuel : Nat) → State → Braces → Option Bool
  | 0, _, _ => some false
  | fuel + 1, s, b =>
    if s.pattern < glob.size || s.text < text.size then
      let step :=
        match glob[s.pattern]? with
        | some c => stepPattern glob text s b c
        | none => .stuck s b
      match step with
      | .next s b => run glob text fuel s b
      | .malformed => none
      | .stuck s b =>
        match recover glob text s b with
        | .resume s b => run glob text fuel s b
        | .hopeless => some false
        | .malformed => none
    else some true

def negations (glob : Bytes) : (fuel position : Nat) → Nat
  | 0, i => i
  | fuel + 1, i => if glob[i]? == some (byte '!') then negations glob fuel (i + 1) else i

def isMatch (glob text : String) : Bool :=
  let g := glob.toUTF8.data
  let t := text.toUTF8.data
  let n := negations g g.size 0
  let fuel := (g.size + 2) * (t.size + 2) * (g.size + t.size + 2)
  match run g t fuel { pattern := n } {} with
  | some hit => hit != (n % 2 == 1)
  | none => false

end MutationTesting.Glob
