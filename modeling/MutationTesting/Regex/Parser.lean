import MutationTesting.Regex.Syntax
import MutationTesting.Regex.CaseFolding
import MutationTesting.Regex.Property
import MutationTesting.Text.Lines

/-! Reading a pattern from its text.

The syntax is the usual one without look-around and back-references. What is wrong with a malformed
pattern is not told. Flags change the reading from where they stand to the end of their group. -/
namespace MutationTesting.Regex

structure Flags where
  ignoreCase : Bool := false
  multiLine : Bool := false
  dotAll : Bool := false
  swapGreed : Bool := false
  unicode : Bool := true
  crlf : Bool := false
  verbose : Bool := false

/-- What is left of the text, and what has been read so far that matters for the rest. -/
structure Reader where
  rest : List Char
  flags : Flags := {}
  /-- Number of capturing groups opened so far. -/
  groups : Nat := 0
  groupNames : List String := []

private abbrev Read (α : Type) := StateT Reader Option α

namespace Reader

def peek? : Read (Option Char) := fun r => some (r.rest.head?, r)

def skip (n : Nat) : Read Unit := fun r => some ((), { r with rest := r.rest.drop n })

def next : Read Char := fun r =>
  match r.rest with
  | c :: cs => some (c, { r with rest := cs })
  | [] => none

def atEnd : Read Bool := fun r => some (r.rest.isEmpty, r)

def takes (text : String) : Read Bool := fun r =>
  if text.toList.isPrefixOf r.rest then
    some (true, { r with rest := r.rest.drop text.length })
  else some (false, r)

def sees (text : String) : Read Bool := fun r => some (text.toList.isPrefixOf r.rest, r)

def currentFlags : Read Flags := fun r => some (r.flags, r)

def setFlags (f : Flags) : Read Unit := fun r => some ((), { r with flags := f })

def rewind (rest : List Char) : Read Unit := fun r => some ((), { r with rest := rest })

def remaining : Read (List Char) := fun r => some (r.rest, r)

end Reader

open Reader

private def failure {α : Type} : Read α := fun _ => none

/-- Blanks and comments, which do not count in a verbose pattern. -/
def skipVerbose : (inComment : Bool) → List Char → List Char
  | _, [] => []
  | true, c :: cs => skipVerbose (c != '\n') cs
  | false, c :: cs =>
    if Text.isBlank c then skipVerbose false cs
    else if c = '#' then skipVerbose true cs
    else c :: cs

def bumpSpace : Read Unit := fun r =>
  some ((), if r.flags.verbose then { r with rest := skipVerbose false r.rest } else r)

def isHexDigit (c : Char) : Bool :=
  c.isDigit || ('a' ≤ c && c ≤ 'f') || ('A' ≤ c && c ≤ 'F')

def hexDigitValue (c : Char) : Nat :=
  if c.isDigit then c.toNat - 48 else if 'a' ≤ c then c.toNat - 87 else c.toNat - 55

def hexNumber (ds : List Char) : Nat := ds.foldl (fun n d => 16 * n + hexDigitValue d) 0

def charOfNat? (n : Nat) : Option Char := if n.isValidChar then some (Char.ofNat n) else none

def digitSet (f : Flags) : Charset := if f.unicode then Text.digitBands else .range 48 57

def spaceSet (f : Flags) : Charset :=
  if f.unicode then Text.blankBands else (Charset.range 9 13).union (.single ' ')

def wordSet (f : Flags) : Charset :=
  if f.unicode then Text.wordBands
  else .unionAll [.range 48 57, .range 65 90, .single '_', .range 97 122]

def letterClass? (f : Flags) (c : Char) : Option Charset :=
  match c with
  | 'd' => some (digitSet f)
  | 'D' => some (digitSet f).complement
  | 's' => some (spaceSet f)
  | 'S' => some (spaceSet f).complement
  | 'w' => some (wordSet f)
  | 'W' => some (wordSet f).complement
  | _ => none

def namedClass? (name : String) : Option Charset :=
  let digit := Charset.range 48 57
  let upper := Charset.range 65 90
  let lower := Charset.range 97 122
  match name with
  | "alnum" => some (.unionAll [digit, upper, lower])
  | "alpha" => some (.unionAll [upper, lower])
  | "ascii" => some (.range 0 127)
  | "blank" => some (.unionAll [.range 9 9, .single ' '])
  | "cntrl" => some (.unionAll [.range 0 31, .range 127 127])
  | "digit" => some digit
  | "graph" => some (.range 33 126)
  | "lower" => some lower
  | "print" => some (.range 32 126)
  | "punct" => some (.unionAll [.range 33 47, .range 58 64, .range 91 96, .range 123 126])
  | "space" => some (.unionAll [.range 9 13, .single ' '])
  | "upper" => some upper
  | "word" => some (.unionAll [digit, upper, lower, .single '_'])
  | "xdigit" => some (.unionAll [digit, .range 65 70, .range 97 102])
  | _ => none

def isMeta (c : Char) : Bool := "\\.+*?()|[]\x7b\x7d^$#&-~".toList.contains c

/-- Characters that a backslash leaves as they are. -/
def isEscapeable (c : Char) : Bool :=
  c.toNat < 128 && !c.isAlphanum && c != '<' && c != '>'

inductive Primitive where
  | literal (c : Char)
  | set (s : Charset)
  | anchor (a : Anchor)

def fixedHex : (count : Nat) → List Char → Read (List Char)
  | 0, seen => return seen.reverse
  | count + 1, seen => do
    let c ← next
    if isHexDigit c then
      bumpSpace
      fixedHex count (c :: seen)
    else failure

def bracedHex : (fuel : Nat) → List Char → Read (List Char)
  | 0, _ => failure
  | fuel + 1, seen => do
    bumpSpace
    let c ← next
    if c = '\x7d' then return seen.reverse
    else if isHexDigit c then bracedHex fuel (c :: seen)
    else failure

/-- The character of an escape by number, after its letter. -/
def hexEscape (letter : Char) : Read Primitive := do
  bumpSpace
  let digits ←
    if (← peek?) == some '\x7b' then do
      skip 1
      bracedHex ((← remaining).length + 1) []
    else fixedHex (if letter = 'x' then 2 else if letter = 'u' then 4 else 8) []
  bumpSpace
  if digits.isEmpty then failure
  else
    match charOfNat? (hexNumber digits) with
    | some c => return .literal c
    | none => failure

/-- Letters of the name of a kind of word border. -/
def borderName : (fuel : Nat) → List Char → Read (List Char)
  | 0, seen => return seen.reverse
  | fuel + 1, seen => do
    match ← peek? with
    | some c =>
      if c.isAlpha || c == '-' then
        skip 1
        bumpSpace
        borderName fuel (c :: seen)
      else return seen.reverse
    | none => return seen.reverse

/-- The border after `\b`: a plain one, or a kind named between braces. Braces that do not start
with a letter are left for a repetition. -/
def wordBorder (word : Charset) : Read Primitive := do
  if (← peek?) != some '\x7b' then return .anchor (.boundary word)
  let start ← remaining
  skip 1
  bumpSpace
  match ← peek? with
  | none => failure
  | some c =>
    if c.isAlpha || c == '-' then
      let name ← borderName (start.length + 1) []
      if !(← takes "\x7d") then failure
      else
        match String.ofList name with
        | "start" => return .anchor (.wordStart word)
        | "end" => return .anchor (.wordEnd word)
        | "start-half" => return .anchor (.wordStartHalf word)
        | "end-half" => return .anchor (.wordEndHalf word)
        | _ => failure
    else
      rewind start
      return .anchor (.boundary word)

/-- The text up to a closing brace, which is taken too. -/
def bracedName : (fuel : Nat) → List Char → Read (List Char)
  | 0, _ => failure
  | fuel + 1, seen => do
    bumpSpace
    let c ← next
    if c = '\x7d' then return seen.reverse else bracedName fuel (c :: seen)

/-- The class of a property after its letter: a name between braces or of one character. If the
flags say so the case of letters does not count, before the class is turned around. -/
def property (negated : Bool) : Read Primitive := do
  bumpSpace
  let c ← next
  let name ←
    if c = '\x7b' then bracedName ((← remaining).length + 1) []
    else if c = '\\' then failure
    else do
      bumpSpace
      pure [c]
  let f ← currentFlags
  match namedProperty? name with
  | some (s, unequal) =>
    if f.unicode then
      let s := if f.ignoreCase then s.closeCase else s
      return .set (if negated != unequal then s.complement else s)
    else failure
  | none => failure

/-- What a backslash and the text after it stand for. -/
def escape : Read Primitive := do
  let c ← next
  let f ← currentFlags
  match letterClass? f c with
  | some s => return .set s
  | none =>
    if c = 'p' ∨ c = 'P' then property (c = 'P')
    else if c = 'x' ∨ c = 'u' ∨ c = 'U' then hexEscape c
    else if isEscapeable c then return .literal c
    else
      match c with
      | 'a' => return .literal '\x07'
      | 'f' => return .literal '\x0c'
      | 't' => return .literal '\t'
      | 'n' => return .literal '\n'
      | 'r' => return .literal '\r'
      | 'v' => return .literal '\x0b'
      | 'A' => return .anchor .textStart
      | 'z' => return .anchor .textEnd
      | 'b' => wordBorder (wordSet f)
      | 'B' => if f.unicode then return .anchor (.noBoundary (wordSet f)) else failure
      | '<' => return .anchor (.wordStart (wordSet f))
      | '>' => return .anchor (.wordEnd (wordSet f))
      | _ => failure

inductive SetOperator where
  | inter
  | diff
  | symmDiff

def SetOperator.apply : SetOperator → Charset → Charset → Charset
  | inter => Charset.inter
  | diff => Charset.diff
  | symmDiff => Charset.symmDiff

def classItem : Read Primitive := do
  let c ← next
  if c = '\\' then escape else return .literal c

/-- A single item or a range of characters; the case of letters counts here not at all if the flags
say so. -/
def classRange : Read Charset := do
  let f ← currentFlags
  let close (s : Charset) : Charset := if f.ignoreCase then s.closeCase else s
  let whole (p : Primitive) : Read Charset :=
    match p with
    | .literal c => return close (.single c)
    | .set s => return close s
    | .anchor _ => failure
  let item ← classItem
  bumpSpace
  if ← atEnd then failure
  else if (← peek?) != some '-' then whole item
  else
    let after : Option Char := ((if f.verbose then skipVerbose false else id)
      ((← remaining).drop 1)).head?
    if after == some ']' || after == some '-' then whole item
    else
      skip 1
      bumpSpace
      let last ← classItem
      match item, last with
      | .literal a, .literal b =>
        if a ≤ b then return close (.range a.toNat b.toNat) else failure
      | _, _ => failure

/-- A class named between brackets and colons, if one comes next; else nothing is taken. -/
def posixClass? : Read (Option Charset) := do
  let start ← remaining
  if !(← takes "[:") then return none
  let negated ← takes "^"
  let rest ← remaining
  let name := rest.takeWhile (· ≠ ':')
  skip name.length
  if ← takes ":]" then
    match namedClass? (String.ofList name) with
    | some s => return some (if negated then s.complement else s)
    | none =>
      rewind start
      return none
  else
    rewind start
    return none

/-- Hyphens right after the opening bracket stand for themselves. -/
def leadingHyphens : (fuel : Nat) → Charset → Read Charset
  | 0, s => return s
  | fuel + 1, s => do
    if ← takes "-" then
      bumpSpace
      leadingHyphens fuel (s.union (.single '-'))
    else return s

abbrev PendingSet := Option (SetOperator × Charset)

def finishSet (pending : PendingSet) (s : Charset) : Charset :=
  match pending with
  | some (op, left) => op.apply left s
  | none => s

mutual

/-- A class after its opening bracket, up to and including the closing one. -/
def bracketed : (fuel : Nat) → Read Charset
  | 0 => failure
  | fuel + 1 => do
    bumpSpace
    let negated ← takes "^"
    if negated then bumpSpace
    let s ← leadingHyphens fuel .empty
    let s ←
      if s.isEmpty && (← peek?) == some ']' then do
        skip 1
        bumpSpace
        pure (Charset.single ']')
      else pure s
    let s ← classBody fuel none s
    return if negated then s.complement else s

/-- The items of a class, joined to the set so far. -/
def classBody : (fuel : Nat) → PendingSet → Charset → Read Charset
  | 0, _, _ => failure
  | fuel + 1, pending, s => do
    bumpSpace
    match ← peek? with
    | none => failure
    | some '[' => do
      match ← posixClass? with
      | some named =>
        let f ← currentFlags
        classBody fuel pending (s.union (if f.ignoreCase then named.closeCase else named))
      | none =>
        skip 1
        let inner ← bracketed fuel
        classBody fuel pending (s.union inner)
    | some ']' => do
      skip 1
      return finishSet pending s
    | some _ => do
      if ← takes "&&" then classBody fuel (some (.inter, finishSet pending s)) .empty
      else if ← takes "--" then classBody fuel (some (.diff, finishSet pending s)) .empty
      else if ← takes "~~" then classBody fuel (some (.symmDiff, finishSet pending s)) .empty
      else
        let item ← classRange
        classBody fuel pending (s.union item)

end

def setFlag? (letter : Char) (value : Bool) (f : Flags) : Option Flags :=
  match letter with
  | 'i' => some { f with ignoreCase := value }
  | 'm' => some { f with multiLine := value }
  | 's' => some { f with dotAll := value }
  | 'U' => some { f with swapGreed := value }
  | 'u' => some { f with unicode := value }
  | 'R' => some { f with crlf := value }
  | 'x' => some { f with verbose := value }
  | _ => none

/-- Flags up to a colon or a closing parenthesis, which is left: the letters before them are set,
those after a hyphen unset, none twice. Returns the flags and whether there were any. -/
def readFlags (f : Flags) (seen : List Char) (negated : Bool) :
    List Char → Option (Flags × Bool × List Char)
  | [] => none
  | c :: cs =>
    if c = ':' ∨ c = ')' then
      if seen.head? = some '-' then none else some (f, !seen.isEmpty, c :: cs)
    else if c ∈ seen then none
    else if c = '-' then readFlags f ('-' :: seen) true cs
    else
      match setFlag? c (!negated) f with
      | some f => readFlags f (c :: seen) negated cs
      | none => none

def isNameChar (first : Bool) (c : Char) : Bool :=
  if c.toNat < 128 then
    c == '_' || c.isAlpha || (!first && (c.isDigit || c == '.' || c == '[' || c == ']'))
  else Text.isWord c

def groupName : Read Unit := do
  let rest ← remaining
  let name := rest.takeWhile (· ≠ '>')
  skip name.length
  if !(← takes ">") then failure
  else
    let wellFormed := match name with
      | c :: cs => isNameChar true c && cs.all (isNameChar false)
      | [] => false
    fun r =>
      let name := String.ofList name
      if wellFormed && !r.groupNames.contains name then
        some ((), { r with groupNames := name :: r.groupNames })
      else none

def newGroup : Read Nat := fun r => some (r.groups + 1, { r with groups := r.groups + 1 })

/-- Blanks are allowed around the counts of a repetition. -/
def skipBlanks : Read Unit := fun r => some ((), { r with rest := r.rest.dropWhile Text.isBlank })

/-- A count of at most thirty-two bits; none if there are no digits. -/
def count? : Read (Option Nat) := do
  skipBlanks
  let ds := (← remaining).takeWhile Char.isDigit
  skip ds.length
  skipBlanks
  bumpSpace
  if ds.isEmpty then return none
  else
    let n := ds.foldl (fun n d => 10 * n + (d.toNat - 48)) 0
    if n < 4294967296 then return some n else failure

def bounds : Read (Nat × Option Nat) := do
  bumpSpace
  match ← count? with
  | none => failure
  | some low =>
    if ← takes "," then
      bumpSpace
      if ← takes "\x7d" then return (low, none)
      else
        match ← count? with
        | none => failure
        | some high =>
          if (← takes "\x7d") && low ≤ high then return (low, some high) else failure
    else if ← takes "\x7d" then return (low, some low)
    else failure

/-- A question mark after a repetition makes it lazy; a flag turns that around. -/
def laziness : Read Bool := do
  let mark ← takes "?"
  return mark != (← currentFlags).swapGreed

def dot (f : Flags) : Charset :=
  if f.dotAll then .full
  else if f.crlf then (Charset.unionAll [.single '\r', .single '\n']).complement
  else (Charset.single '\n').complement

def caret (f : Flags) : Anchor :=
  if f.multiLine then if f.crlf then .lineStartCrlf else .lineStart else .textStart

def dollar (f : Flags) : Anchor :=
  if f.multiLine then if f.crlf then .lineEndCrlf else .lineEnd else .textEnd

/-- The pattern of a primitive under the current flags. Letters may be read without regard to
case; a set without the characters of all scripts must not reach beyond plain ASCII. -/
def patternOf (p : Primitive) : Read Pattern := do
  let f ← currentFlags
  match p with
  | .literal c =>
    let s := Charset.single c
    return .oneOf (if f.ignoreCase && (f.unicode || c.toNat < 128) then
      (if f.unicode then s.closeCase else s.closeCase.inter (.range 0 127)) else s)
  | .set s => if f.unicode || s.isAscii then return .oneOf s else failure
  | .anchor a => return .anchor a

/-- What stands in a sequence: a pattern that may be repeated, or flags, which may not. -/
inductive Piece where
  | pattern (p : Pattern)
  | flags

/-- The pieces of a sequence, held last one first, in order. -/
def sequence (ps : List Piece) : Pattern :=
  ps.foldl (fun acc p =>
    match p, acc with
    | .pattern p, .empty => p
    | .pattern p, acc => .concat p acc
    | .flags, acc => acc) .empty

def repeatLast (lazy : Bool) (min : Nat) (max : Option Nat) : List Piece → Option (List Piece)
  | .pattern p :: ps => some (.pattern (.repeated lazy min max p) :: ps)
  | _ => none

def maxGroupDepth : Nat := 250

mutual

def alternatives : (fuel depth : Nat) → Read Pattern
  | 0, _ => failure
  | fuel + 1, depth => do
    let first ← pieces fuel depth []
    if ← takes "|" then return .either first (← alternatives fuel depth) else return first

def pieces : (fuel depth : Nat) → List Piece → Read Pattern
  | 0, _, _ => failure
  | fuel + 1, depth, seen => do
    bumpSpace
    let repeating (min : Nat) (max : Option Nat) : Read Pattern := do
      let lazy ← laziness
      match repeatLast lazy min max seen with
      | some seen => pieces fuel depth seen
      | none => failure
    match ← peek? with
    | none | some '|' | some ')' => return sequence seen
    | some c => do
      skip 1
      match c with
      | '(' => do
        let piece ← group fuel depth
        pieces fuel depth (piece :: seen)
      | '[' => do
        let s ← bracketed ((← remaining).length * 2 + 4)
        let f ← currentFlags
        if f.unicode || s.isAscii then pieces fuel depth (.pattern (.oneOf s) :: seen)
        else failure
      | '?' => repeating 0 (some 1)
      | '*' => repeating 0 none
      | '+' => repeating 1 none
      | '\x7b' => do
        let (low, high) ← bounds
        bumpSpace
        repeating low high
      | '.' => do
        let f ← currentFlags
        if f.unicode then pieces fuel depth (.pattern (.oneOf (dot f)) :: seen) else failure
      | '^' => do pieces fuel depth (.pattern (.anchor (caret (← currentFlags))) :: seen)
      | '$' => do pieces fuel depth (.pattern (.anchor (dollar (← currentFlags))) :: seen)
      | '\\' => do
        let p ← patternOf (← escape)
        pieces fuel depth (.pattern p :: seen)
      | c => do
        let p ← patternOf (.literal c)
        pieces fuel depth (.pattern p :: seen)

def group : (fuel depth : Nat) → Read Piece
  | 0, _ => failure
  | fuel + 1, depth => do
    bumpSpace
    let outer ← currentFlags
    let inside : Read Pattern := do
      if maxGroupDepth ≤ depth then failure
      else
        let p ← alternatives fuel (depth + 1)
        if ← takes ")" then
          setFlags outer
          return p
        else failure
    if (← sees "?=") || (← sees "?!") || (← sees "?<=") || (← sees "?<!") then failure
    else if (← takes "?P<") || (← takes "?<") then
      let index ← newGroup
      groupName
      return .pattern (.group index (← inside))
    else if ← takes "?" then
      match readFlags outer [] false (← remaining) with
      | none => failure
      | some (f, any, rest) =>
        rewind rest
        setFlags f
        if ← takes ")" then
          if any then return .flags else failure
        else
          skip 1
          return .pattern (← inside)
    else
      let index ← newGroup
      return .pattern (.group index (← inside))

end

/-- The pattern that a text denotes; none if the text is malformed. -/
def parse? (text : String) : Option Pattern :=
  let cs := text.toList
  match alternatives (4 * cs.length + 8) 0 { rest := cs } with
  | some (p, r) => if r.rest.isEmpty then some p else none
  | none => none

end MutationTesting.Regex
