import MutationTesting.Shell.Printing

/-! Conditions on texts, numbers and files. -/
namespace MutationTesting.Shell

inductive ConditionFault where
  | notNumber (text : String)
  | badOperator (text : String)
  | noOperand (operator : String)
  | malformed

def ConditionFault.message : ConditionFault → String
  | notNumber text => "Illegal number: " ++ text
  | badOperator text => text ++ ": unexpected operator"
  | noOperand operator => operator ++ ": argument expected"
  | malformed => "argument expected"

def unary? (d : Disk) (sign operand : String) : Option Bool :=
  match sign with
  | "-n" => some (!operand.isEmpty)
  | "-z" => some operand.isEmpty
  | "-f" => some (d.exists? operand && !d.isFolder operand)
  | "-d" => some (d.isFolder operand)
  | "-e" | "-r" | "-w" => some (d.exists? operand || operand == "/dev/null")
  | "-x" => some (d.isFolder operand)
  | "-s" => some (d.isFolder operand || !((d.readText operand).toOption.getD "").isEmpty)
  | "-h" | "-L" | "-p" | "-S" | "-b" | "-c" | "-t" | "-g" | "-u" | "-k" => some false
  | _ => none

def compareNumbers (sign left right : String) : Except ConditionFault (Option Bool) := do
  let holds : Option (Int → Int → Bool) := match sign with
    | "-eq" => some fun a b => a == b
    | "-ne" => some fun a b => a != b
    | "-lt" => some fun a b => a < b
    | "-le" => some fun a b => a ≤ b
    | "-gt" => some fun a b => b < a
    | "-ge" => some fun a b => b ≤ a
    | _ => none
  match holds with
  | none => return none
  | some holds =>
    let number (text : String) : Except ConditionFault Int :=
      match integer? text.trimAscii.toString with
      | some n => if text.trimAscii.toString.isEmpty then .error (.notNumber text) else .ok n
      | none => .error (.notNumber text)
    return some (holds (← number left) (← number right))

def binary? (sign left right : String) : Except ConditionFault (Option Bool) :=
  match sign with
  | "=" => .ok (some (left == right))
  | "!=" => .ok (some (left != right))
  | "<" => .ok (some (left < right))
  | ">" => .ok (some (right < left))
  | _ => compareNumbers sign left right

mutual

def orTerms (d : Disk) : (fuel : Nat) → List String → Except ConditionFault (Bool × List String)
  | 0, _ => .error .malformed
  | fuel + 1, ts => do
    match ← andTerms d fuel ts with
    | (a, "-o" :: rest) =>
      let (b, rest) ← orTerms d fuel rest
      return (a || b, rest)
    | other => return other

/-- Terms joined by "and", which binds more. -/
def andTerms (d : Disk) : (fuel : Nat) → List String → Except ConditionFault (Bool × List String)
  | 0, _ => .error .malformed
  | fuel + 1, ts => do
    match ← term d fuel ts with
    | (a, "-a" :: rest) =>
      let (b, rest) ← andTerms d fuel rest
      return (a && b, rest)
    | other => return other

def term (d : Disk) : (fuel : Nat) → List String → Except ConditionFault (Bool × List String)
  | 0, _ => .error .malformed
  | fuel + 1, ts => do
    match ts with
    | left :: sign :: right :: rest =>
      if let some b ← binary? sign left right then return (b, rest)
    | _ => pure ()
    match ts with
    | "!" :: rest =>
      if rest.isEmpty then return (true, [])
      let (b, rest) ← term d fuel rest
      return (!b, rest)
    | "(" :: rest =>
      if rest.isEmpty then return (true, [])
      match ← orTerms d fuel rest with
      | (b, ")" :: rest) => return (b, rest)
      | _ => throw .malformed
    | sign :: operand :: rest =>
      match unary? d sign operand with
      | some b => return (b, rest)
      | none =>
        if rest.isEmpty && (← binary? operand "0" "0").isSome then throw (.noOperand operand)
        else return (!sign.isEmpty, operand :: rest)
    | [word] => return (!word.isEmpty, [])
    | [] => return (false, [])

end

/-- Decides a condition; the empty one does not hold. Of what cannot follow, the word before it is
blamed. -/
def condition (d : Disk) (ts : List String) : Except ConditionFault Bool :=
  if ts.isEmpty then .ok false
  else
    match orTerms d (4 * ts.length + 4) ts with
    | .ok (b, []) => .ok b
    | .ok (_, rest) => .error (.badOperator (ts.getD (ts.length - rest.length - 1) ""))
    | .error e => .error e

def test (name : String) (args : List String) : Run Nat := do
  match condition (← get).disk args with
  | .ok holds => return if holds then 0 else 1
  | .error e =>
    complainAt (name ++ ": " ++ e.message)
    return 2

end MutationTesting.Shell
