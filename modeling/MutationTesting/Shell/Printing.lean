import MutationTesting.Shell.Session

/-! Commands that print their arguments. -/
namespace MutationTesting.Shell

def byteOf (n : Nat) : UInt8 := UInt8.ofNat (n % 256)

def octal (most : Nat) (cs : List Char) : Nat × List Char :=
  let ds := (cs.take most).takeWhile fun c => '0' ≤ c && c ≤ '7'
  (ds.foldl (fun n d => 8 * n + (d.toNat - 48)) 0, cs.drop ds.length)

def letterEscape? : Char → Option UInt8
  | '\\' => some 92
  | 'a' => some 7
  | 'b' => some 8
  | 'e' => some 27
  | 'f' => some 12
  | 'n' => some 10
  | 'r' => some 13
  | 't' => some 9
  | 'v' => some 11
  | _ => none

/-- The bytes of a text with escapes; whether an escape stops all printing. There are at most `fuel`
characters. -/
def escapedBytes : (fuel : Nat) → List Char → List UInt8 × Bool
  | 0, _ | _, [] => ([], false)
  | _ + 1, '\\' :: 'c' :: _ => ([], true)
  | fuel + 1, '\\' :: '0' :: cs =>
    let (n, rest) := octal 3 cs
    let (bytes, stops) := escapedBytes fuel rest
    (byteOf n :: bytes, stops)
  | fuel + 1, '\\' :: c :: cs =>
    let (bytes, stops) := escapedBytes fuel cs
    match letterEscape? c with
    | some b => (b :: bytes, stops)
    | none => (92 :: Text.toBytes (String.ofList [c]) ++ bytes, stops)
  | fuel + 1, c :: cs =>
    let (bytes, stops) := escapedBytes fuel cs
    (Text.toBytes (String.ofList [c]) ++ bytes, stops)

def escapedText (s : String) : List UInt8 × Bool := escapedBytes (s.length + 1) s.toList

def echo (args : List String) : Run Nat := do
  let (isBare, args) := match args with
    | "-n" :: rest => (true, rest)
    | args => (false, args)
  let (bytes, stops) := escapedText (" ".intercalate args)
  modify fun s => s.write 1 (bytes ++ if isBare || stops then [] else [10])
  return 0

structure Layout where
  isLeft : Bool := false
  isZeroed : Bool := false
  isSigned : Bool := false
  isSpaced : Bool := false
  width : Nat := 0
  precision : Option Nat := none

def Layout.fill (l : Layout) (bytes : List UInt8) : List UInt8 :=
  let gap := l.width - bytes.length
  if l.isLeft then bytes ++ List.replicate gap 32
  else if l.isZeroed then
    match bytes with
    | 45 :: ds => 45 :: List.replicate gap 48 ++ ds
    | ds => List.replicate gap 48 ++ ds
  else List.replicate gap 32 ++ bytes

def Layout.number (l : Layout) (isNegative : Bool) (digits : List Char) : List UInt8 :=
  let missing := l.precision.getD 1 - digits.length
  let sign := if isNegative then "-" else if l.isSigned then "+" else if l.isSpaced then " " else ""
  l.fill (Text.toBytes (sign ++ String.ofList (List.replicate missing '0' ++ digits)))

/-- A number in base sixteen after `0x`, in base eight after a zero, else in base ten. -/
def natural? (cs : List Char) : Option Nat :=
  let value (base : Nat) (ds : List Char) : Option Nat :=
    if ds.isEmpty then none
    else ds.foldlM (fun n d =>
      let v := if d.isDigit then d.toNat - 48 else if 'a' ≤ d && d ≤ 'f' then d.toNat - 87
        else if 'A' ≤ d && d ≤ 'F' then d.toNat - 55 else base
      if v < base then some (base * n + v) else none) 0
  match cs with
  | '0' :: 'x' :: ds | '0' :: 'X' :: ds => value 16 ds
  | '0' :: ds => value 8 ('0' :: ds)
  | ds => value 10 ds

/-- A whole number; a quote in front asks for the number of a character. -/
def integer? (text : String) : Option Int :=
  match text.toList with
  | [] => some 0
  | '\'' :: c :: _ | '"' :: c :: _ => some c.toNat
  | '-' :: ds => (natural? ds).map fun n => -n
  | '+' :: ds | ds => (natural? ds).map Int.ofNat

/-- What is printed so far, the arguments that are left, and whether all went well. -/
structure Printed where
  bytes : List UInt8 := []
  rest : List String
  took : Bool := false
  faults : List String := []
  stops : Bool := false

/-- A directive without its sign: flags, width and precision, and what follows. -/
def layout (args : List String) (cs : List Char) : Layout × List String × List Char :=
  let flags := cs.takeWhile fun c => ['-', '0', '+', ' ', '#'].contains c
  let cs := cs.drop flags.length
  let l : Layout := {
    isLeft := flags.contains '-', isZeroed := flags.contains '0', isSigned := flags.contains '+',
    isSpaced := flags.contains ' ' }
  let (width, args, cs) := match cs with
    | '*' :: cs => ((args.headD "").toNat?.getD 0, args.drop 1, cs)
    | cs =>
      let ds := cs.takeWhile Char.isDigit
      ((String.ofList ds).toNat?.getD 0, args, cs.drop ds.length)
  let l := { l with width }
  match cs with
  | '.' :: cs =>
    let ds := cs.takeWhile Char.isDigit
    ({ l with precision := some ((String.ofList ds).toNat?.getD 0) }, args, cs.drop ds.length)
  | cs => (l, args, cs)

def directive? (l : Layout) (kind : Char) (argument : String) : Option (List UInt8 × List String) :=
  let cut (bytes : List UInt8) : List UInt8 := match l.precision with
    | some p => bytes.take p
    | none => bytes
  let number (render : Int → List UInt8) : List UInt8 × List String :=
    match integer? argument with
    | some n =>
      let kept := max Int64.minValue.toInt (min n Int64.maxValue.toInt)
      (render kept, if kept = n then [] else [argument ++ ": Numerical result out of range"])
    | none => (render 0, [argument ++ ": expected numeric value"])
  let inBase (base : Nat) (n : Int) : List Char := Nat.toDigits base (n % 18446744073709551616).toNat
  match kind with
  | 's' => some (l.fill (cut (Text.toBytes argument)), [])
  | 'b' => some (l.fill (cut (escapedText argument).1), [])
  | 'c' => some (l.fill (if argument.isEmpty then [0] else (Text.toBytes argument).take 1), [])
  | 'd' | 'i' => some (number fun n => l.number (decide (n < 0)) (Nat.toDigits 10 n.natAbs))
  | 'u' => some (number fun n => l.number false (inBase 10 n))
  | 'o' => some (number fun n => l.number false (inBase 8 n))
  | 'x' => some (number fun n => l.number false (inBase 16 n))
  | 'X' => some (number fun n => l.number false ((inBase 16 n).map Char.toUpper))
  | _ => none

def formatOnce : (fuel : Nat) → List Char → Printed → Printed
  | 0, _, p | _, [], p => p
  | fuel + 1, '\\' :: c :: cs, p =>
    if '0' ≤ c && c ≤ '7' then
      let (n, rest) := octal 3 (c :: cs)
      formatOnce fuel rest { p with bytes := p.bytes ++ [byteOf n] }
    else
      match letterEscape? c with
      | some b => formatOnce fuel cs { p with bytes := p.bytes ++ [b] }
      | none => formatOnce fuel cs { p with bytes := p.bytes ++ 92 :: Text.toBytes (String.ofList [c]) }
  | fuel + 1, '%' :: '%' :: cs, p => formatOnce fuel cs { p with bytes := p.bytes ++ [37] }
  | fuel + 1, '%' :: cs, p =>
    let (l, args, rest) := layout p.rest cs
    match rest with
    | [] => { p with faults := p.faults ++ ["missing format character"], stops := true }
    | kind :: rest =>
      match directive? l kind (args.headD "") with
      | some (bytes, faults) =>
        let stops := kind = 'b' && (escapedText (args.headD "")).2
        let p : Printed :=
          { bytes := p.bytes ++ bytes, rest := args.drop 1, took := true, faults := p.faults ++ faults, stops }
        if stops then p else formatOnce fuel rest p
      | none =>
        let shown := "%" ++ String.ofList [kind]
        { p with faults := p.faults ++ [shown ++ ": invalid directive"], stops := true }
  | fuel + 1, c :: cs, p =>
    formatOnce fuel cs { p with bytes := p.bytes ++ Text.toBytes (String.ofList [c]) }

/-- Prints a format again as long as it uses up arguments. -/
def formatAll (format : List Char) : (passes : Nat) → Printed → Printed
  | 0, p => p
  | passes + 1, p =>
    let next := formatOnce (format.length + 1) format { p with took := false }
    if next.took && !next.stops && !next.rest.isEmpty then formatAll format passes next else next

def printf : List String → Run Nat
  | [] => do
    complainAt "printf: usage: printf format [arg ...]"
    return 2
  | "--" :: format :: args | format :: args => do
    let p := formatAll format.toList (args.length + 1) { rest := args }
    modify fun s => s.write 1 p.bytes
    p.faults.forM fun f => complainAt ("printf: " ++ f)
    return if p.faults.isEmpty then 0 else if p.stops then 2 else 1

def seq (args : List String) : Run Nat := do
  let print (first step last : Int) : Run Nat := do
    let count := if 0 < step then (last - first) / step + 1 else if step < 0 then (first - last) / (-step) + 1 else 0
    (List.range count.toNat).forM fun i => say (toString (first + step * i) ++ "\n")
    return 0
  match args.mapM integer? with
  | some [last] => print 1 1 last
  | some [first, last] => print first 1 last
  | some [first, step, last] => print first step last
  | _ => do
    complain "seq: invalid argument"
    return 1

end MutationTesting.Shell
