import MutationTesting.Regex.Parser

/-! Searching a text for a pattern.

A pattern is laid out as a list of instructions, and all ways to go on are followed side by side,
one character at a time, in the order of preference. So a search takes time in proportion to the
product of the lengths, and finds the match that starts first and, of those, the preferred one. -/
namespace MutationTesting.Regex

inductive Instruction where
  /-- One character of the set, then on. -/
  | step (set : Charset) (next : Nat)
  | fork (preferred other : Nat)
  | check (condition : Anchor) (next : Nat)
  /-- Notes the place as the start of a group. -/
  | enter (group next : Nat)
  /-- Notes the place as the end of a group. -/
  | leave (group next : Nat)
  | jump (next : Nat)
  | done
deriving Inhabited

abbrev Program := Array Instruction

/-- Appends the instructions of a pattern; they go on behind the last of them. A repetition without
end asks behind its body whether to go on; so a body that takes no character is still gone through
once. -/
def emit (prog : Program) : Pattern → Program
  | .empty => prog
  | .oneOf s => prog.push (.step s (prog.size + 1))
  | .anchor a => prog.push (.check a (prog.size + 1))
  | .group i p =>
    let prog := emit (prog.push (.enter i (prog.size + 1))) p
    prog.push (.leave i (prog.size + 1))
  | .concat p q => emit (emit prog p) q
  | .either p q =>
    let start := prog.size
    let prog := emit (prog.push .done) p
    let middle := prog.size
    let prog := emit (prog.push .done) q
    (prog.set! start (.fork (start + 1) (middle + 1))).set! middle (.jump prog.size)
  | .repeated lazy low high p =>
    let choose (body after : Nat) : Instruction :=
      if lazy then .fork after body else .fork body after
    let copies (n : Nat) (prog : Program) := (List.range n).foldl (fun prog _ => emit prog p) prog
    match high with
    | none =>
      let prog := copies (low - 1) prog
      let start := prog.size
      let prog := if low = 0 then prog.push .done else prog
      let body := prog.size
      let prog := emit prog p
      let prog := prog.push (choose body (prog.size + 1))
      if low = 0 then prog.set! start (choose body prog.size) else prog
    | some high =>
      let prog := copies low prog
      let (prog, forks) := (List.range (high - low)).foldl (fun (prog, forks) _ =>
        (emit (prog.push .done) p, prog.size :: forks)) (prog, ([] : List Nat))
      let stop := prog.size
      forks.foldl (fun prog i => prog.set! i (choose (i + 1) stop)) prog

/-- About how many instructions a pattern takes: one for each range of a set, and as many for a
repetition as for what it stands for. -/
def Pattern.weight : Pattern → Nat
  | .empty => 0
  | .oneOf s => (s.length + 1) / 2
  | .anchor _ => 1
  | .group _ p => p.weight + 2
  | .concat p q => p.weight + q.weight
  | .either p q => p.weight + q.weight + 1
  | .repeated _ low high p =>
    match high with
    | none => (low + 1) * p.weight + 1
    | some high => high * p.weight + (high - low)

def maxWeight : Nat := 300000

/-- The pattern of a text, if the text is well formed and the pattern not too large. -/
def ofText? (text : String) : Option Pattern :=
  (parse? text).filter fun p => p.weight ≤ maxWeight

def compile (p : Pattern) : Program := (emit #[] p).push .done

structure Bounds where
  start : Option Nat := none
  stop : Option Nat := none

/-- One way to go on: the next instruction, and the bounds of one group noted so far. -/
structure Thread where
  next : Nat
  bounds : Bounds := {}

/-- A place in the text: how many characters lie before it, and the ones around it. -/
structure Place where
  index : Nat
  before : Option Char
  after : Option Char

def isIn (word : Charset) : Option Char → Bool
  | some c => word.contains c
  | none => false

def Anchor.holds (p : Place) : Anchor → Bool
  | textStart => p.before.isNone
  | textEnd => p.after.isNone
  | lineStart => p.before.all (· == '\n')
  | lineEnd => p.after.all (· == '\n')
  | lineStartCrlf =>
    p.before.all fun c => c == '\n' || (c == '\r' && p.after != some '\n')
  | lineEndCrlf =>
    p.after.all fun c => c == '\r' || (c == '\n' && p.before != some '\r')
  | boundary word => isIn word p.before != isIn word p.after
  | noBoundary word => isIn word p.before == isIn word p.after
  | wordStart word => !isIn word p.before && isIn word p.after
  | wordEnd word => isIn word p.before && !isIn word p.after
  | wordStartHalf word => !isIn word p.before
  | wordEndHalf word => !isIn word p.after

/-- Follows the instructions that take no character, in order of preference. Each instruction is
reached at most once; the steps that wait for a character, and the end, are collected last first.
The group whose bounds are noted is `wanted`. -/
def follow (prog : Program) (wanted : Nat) (p : Place) :
    (fuel : Nat) → List Thread → Array Bool → List Thread → List Thread
  | 0, _, _, out => out
  | _ + 1, [], _, out => out
  | fuel + 1, t :: ts, seen, out =>
    if seen.getD t.next true then follow prog wanted p fuel ts seen out
    else
      let seen := seen.setIfInBounds t.next true
      match prog[t.next]? with
      | none => follow prog wanted p fuel ts seen out
      | some i =>
        match i with
        | .step _ _ | .done => follow prog wanted p fuel ts seen (t :: out)
        | .fork a b =>
          follow prog wanted p fuel ({ t with next := a } :: { t with next := b } :: ts) seen out
        | .check c next =>
          if c.holds p then follow prog wanted p fuel ({ t with next := next } :: ts) seen out
          else follow prog wanted p fuel ts seen out
        | .enter g next =>
          let bounds := if g = wanted then { t.bounds with start := some p.index } else t.bounds
          follow prog wanted p fuel ({ next, bounds } :: ts) seen out
        | .leave g next =>
          let bounds := if g = wanted then { t.bounds with stop := some p.index } else t.bounds
          follow prog wanted p fuel ({ next, bounds } :: ts) seen out
        | .jump next => follow prog wanted p fuel ({ t with next := next } :: ts) seen out

/-- The threads that are preferred to the first one that is done, and that one if there is any. -/
def untilDone (prog : Program) : List Thread → List Thread × Option Thread
  | [] => ([], none)
  | t :: ts =>
    match prog[t.next]? with
    | some .done => ([], some t)
    | _ =>
      let (kept, found) := untilDone prog ts
      (t :: kept, found)

/-- The threads that a character lets go on. -/
def advance (prog : Program) (c : Char) (ts : List Thread) : List Thread :=
  ts.filterMap fun t =>
    match prog.getD t.next .done with
    | .step s next => if s.contains c then some { t with next := next } else none
    | _ => none

/-- Goes through the text from a place; `best` is the best match so far. A new start is tried at
every place until a match is found. -/
def scan (prog : Program) (wanted : Nat) (ts : List Thread) (best : Option Bounds)
    (index : Nat) (before : Option Char) (rest : List Char) : Option Bounds :=
  let p : Place := ⟨index, before, rest.head?⟩
  let starts := if best.isNone then ts ++ [{ next := 0 }] else ts
  let fuel := starts.length + 2 * prog.size + 2
  let reached := (follow prog wanted p fuel starts (Array.replicate prog.size false) []).reverse
  let (kept, found) := untilDone prog reached
  let best := (found.map Thread.bounds).or best
  match rest with
  | [] => best
  | c :: cs =>
    let ts := advance prog c kept
    if ts.isEmpty && best.isSome then best
    else scan prog wanted ts best (index + 1) (some c) cs

/-- Where a group lies in the first match of a pattern; none if nothing matches or the group takes
no part in the match. -/
def bounds? (p : Pattern) (index : Nat) (text : List Char) : Option (Nat × Nat) :=
  match scan (compile p) index [] none 0 none text with
  | some ⟨some start, some stop⟩ => some (start, stop)
  | _ => none

def group? (p : Pattern) (index : Nat) (text : List Char) : Option (List Char) :=
  (bounds? p index text).map fun b => (text.drop b.1).take (b.2 - b.1)

end MutationTesting.Regex
