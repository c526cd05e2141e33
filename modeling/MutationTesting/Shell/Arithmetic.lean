/-! Whole number expressions of the shell. -/
namespace MutationTesting.Shell.Arithmetic

inductive Fault where
  | divisionByZero
  /-- Something follows that cannot. -/
  | leftOver
  /-- The value of a variable is no number. -/
  | notNumber (text : String)
  | malformed
deriving DecidableEq

inductive Token where
  | number (n : Int)
  | name (text : String)
  | sign (text : String)
deriving DecidableEq, Inhabited

/-- Signs of two and three characters come before those they begin with. -/
def signs : List String :=
  ["<<=", ">>=", "<<", ">>", "<=", ">=", "==", "!=", "&&", "||", "+=", "-=", "*=", "/=", "%=", "&=",
    "^=", "|=", "+", "-", "*", "/", "%", "(", ")", "<", ">", "=", "!", "~", "&", "^", "|", "?", ":"]

def digitValue (c : Char) : Nat :=
  if c.isDigit then c.toNat - 48 else if 'a' ≤ c && c ≤ 'f' then c.toNat - 87 else c.toNat - 55

def greatest : Nat := Nat.pow 2 63 - 1

def number (cs : List Char) : Nat × List Char :=
  let inBase (base : Nat) (isDigit : Char → Bool) (cs : List Char) : Nat × List Char :=
    ((cs.takeWhile isDigit).foldl (fun n d => base * n + digitValue d) 0, cs.dropWhile isDigit)
  let isHex (c : Char) : Bool := c.isDigit || ('a' ≤ c && c ≤ 'f') || ('A' ≤ c && c ≤ 'F')
  match cs with
  | '0' :: x :: d :: ds =>
    if (x == 'x' || x == 'X') && isHex d then inBase 16 isHex (d :: ds)
    else inBase 8 (fun c => '0' ≤ c && c ≤ '7') cs
  | '0' :: _ => inBase 8 (fun c => '0' ≤ c && c ≤ '7') cs
  | _ => inBase 10 Char.isDigit cs

/-- The tokens of a text; a character that begins none stands for itself. -/
def tokens : (fuel : Nat) → List Char → List Token
  | 0, _ | _, [] => []
  | fuel + 1, c :: cs =>
    if c == ' ' || c == '\t' || c == '\n' then tokens fuel cs
    else if c.isDigit then
      let (n, rest) := number (c :: cs)
      .number (min n greatest) :: tokens fuel rest
    else if c.isAlpha || c == '_' then
      let word := (c :: cs).takeWhile fun d => d.isAlphanum || d == '_'
      .name (String.ofList word) :: tokens fuel ((c :: cs).drop word.length)
    else
      let sign := (signs.find? fun s => s.toList.isPrefixOf (c :: cs)).getD (String.ofList [c])
      .sign sign :: tokens fuel ((c :: cs).drop sign.length)

def wrap (n : Int) : Int := Int.bmod n (Nat.pow 2 64)

def ofBool (b : Bool) : Int := if b then 1 else 0

def apply (sign : String) (a b : Int) : Except Fault Int :=
  match sign with
  | "||" => .ok (ofBool (a != 0 || b != 0))
  | "&&" => .ok (ofBool (a != 0 && b != 0))
  | "|" => .ok (Int64.ofInt a ||| Int64.ofInt b).toInt
  | "^" => .ok (Int64.ofInt a ^^^ Int64.ofInt b).toInt
  | "&" => .ok (Int64.ofInt a &&& Int64.ofInt b).toInt
  | "==" => .ok (ofBool (a == b))
  | "!=" => .ok (ofBool (a != b))
  | "<" => .ok (ofBool (a < b))
  | "<=" => .ok (ofBool (a ≤ b))
  | ">" => .ok (ofBool (b < a))
  | ">=" => .ok (ofBool (b ≤ a))
  | "<<" => .ok (Int64.ofInt a <<< Int64.ofInt b).toInt
  | ">>" => .ok (Int64.ofInt a >>> Int64.ofInt b).toInt
  | "+" => .ok (wrap (a + b))
  | "-" => .ok (wrap (a - b))
  | "*" => .ok (wrap (a * b))
  | "/" => if b = 0 then .error .divisionByZero else .ok (wrap (Int.tdiv a b))
  | "%" => if b = 0 then .error .divisionByZero else .ok (Int.tmod a b)
  | _ => .error .malformed

/-- Signs between two operands, those that bind least first. -/
def levels : List (List String) :=
  [["||"], ["&&"], ["|"], ["^"], ["&"], ["==", "!="], ["<=", ">=", "<", ">"], ["<<", ">>"],
    ["+", "-"], ["*", "/", "%"]]

abbrev Variables := List (String × String)

/-- The value of a variable; an unset or empty one is zero. -/
def value (vars : Variables) (name : String) : Except Fault Int :=
  let text := (vars.lookup name).getD ""
  match tokens text.length text.toList with
  | [] => .ok 0
  | [.number n] => .ok n
  | [.sign "-", .number n] => .ok (-n)
  | [.sign "+", .number n] => .ok n
  | _ => .error (.notNumber text)

def store (vars : Variables) (name : String) (n : Int) : Variables :=
  (name, toString n) :: vars.filter fun v => v.1 != name

abbrev Step := Except Fault (Int × Variables × List Token)

def compound? (sign : String) : Option String :=
  if ["+=", "-=", "*=", "/=", "%=", "&=", "^=", "|=", "<<=", ">>="].contains sign then
    some (String.ofList sign.toList.dropLast)
  else none

mutual

def expression : (fuel : Nat) → Variables → List Token → Step
  | 0, _, _ => .error .malformed
  | fuel + 1, vars, .name x :: .sign s :: rest =>
    if s = "=" then
      match expression fuel vars rest with
      | .ok (n, vars, rest) => .ok (n, store vars x n, rest)
      | .error e => .error e
    else
      match compound? s with
      | some op =>
        match expression fuel vars rest with
        | .ok (n, vars, rest) =>
          match (value vars x).bind fun m => apply op m n with
          | .ok n => .ok (n, store vars x n, rest)
          | .error e => .error e
        | .error e => .error e
      | none => choice fuel vars (.name x :: .sign s :: rest)
  | fuel + 1, vars, ts => choice fuel vars ts

def choice : (fuel : Nat) → Variables → List Token → Step
  | 0, _, _ => .error .malformed
  | fuel + 1, vars, ts =>
    match operation fuel levels vars ts with
    | .ok (n, vars, .sign "?" :: rest) =>
      match expression fuel vars rest with
      | .ok (a, vars, .sign ":" :: rest) =>
        match choice fuel vars rest with
        | .ok (b, vars, rest) => .ok (if n = 0 then b else a, vars, rest)
        | .error e => .error e
      | .ok _ => .error .malformed
      | .error e => .error e
    | other => other

def operation : (fuel : Nat) → List (List String) → Variables → List Token → Step
  | 0, _, _, _ => .error .malformed
  | fuel + 1, [], vars, ts => operand fuel vars ts
  | fuel + 1, level :: higher, vars, ts =>
    match operation fuel higher vars ts with
    | .ok (a, vars, rest) => more fuel level higher a vars rest
    | .error e => .error e

def more : (fuel : Nat) → List String → List (List String) → Int → Variables → List Token → Step
  | 0, _, _, _, _, _ => .error .malformed
  | fuel + 1, level, higher, a, vars, .sign s :: rest =>
    if level.contains s then
      match operation fuel higher vars rest with
      | .ok (b, vars, rest) =>
        match apply s a b with
        | .ok n => more fuel level higher n vars rest
        | .error e => .error e
      | .error e => .error e
    else .ok (a, vars, .sign s :: rest)
  | _ + 1, _, _, a, vars, rest => .ok (a, vars, rest)

def operand : (fuel : Nat) → Variables → List Token → Step
  | 0, _, _ => .error .malformed
  | _ + 1, vars, .number n :: rest => .ok (wrap n, vars, rest)
  | _ + 1, vars, .name x :: rest => (value vars x).map fun n => (n, vars, rest)
  | fuel + 1, vars, .sign s :: rest =>
    match s with
    | "(" =>
      match expression fuel vars rest with
      | .ok (n, vars, .sign ")" :: rest) => .ok (n, vars, rest)
      | .ok _ => .error .malformed
      | .error e => .error e
    | "-" => (operand fuel vars rest).map fun p => (wrap (-p.1), p.2)
    | "+" => operand fuel vars rest
    | "!" => (operand fuel vars rest).map fun p => (ofBool (p.1 == 0), p.2)
    | "~" => (operand fuel vars rest).map fun p => (-p.1 - 1, p.2)
    | _ => .error .malformed
  | _ + 1, _, [] => .error .malformed

end

def evaluate (vars : Variables) (text : String) : Except Fault (Int × Variables) :=
  match tokens text.length text.toList with
  | [] => .ok (0, vars)
  | ts =>
    match expression (16 * ts.length + 16) vars ts with
    | .ok (n, vars, []) => .ok (n, vars)
    | .ok _ => .error .leftOver
    | .error e => .error e

def Fault.message (expression : String) : Fault → String
  | notNumber text => "Illegal number: " ++ text
  | divisionByZero => "arithmetic expression: division by zero: \"" ++ expression ++ "\""
  | leftOver => "arithmetic expression: expecting EOF: \"" ++ expression ++ "\""
  | malformed => "arithmetic expression: expecting primary: \"" ++ expression ++ "\""

end MutationTesting.Shell.Arithmetic
