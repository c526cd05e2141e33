import MutationTesting.Proofs.Number.Decimal
import MutationTesting.Proofs.Text.Nesting
import MutationTesting.Proofs.Tree.Operand

/-! Names and literals as words: one piece each, told from signs and brackets by how they begin, and
from a number that is too large for a literal by where they end. -/
namespace MutationTesting

open Text

section Literals

open Nesting

/-- A character of a string literal leaves the literal open. -/
private theorem quoted_literalChar (c : Char) (d : Nat) :
    (quoted d).after (literalChar c) = quoted d ∧
      (quoted d).words (literalChar c) = [literalChar c] := by
  unfold literalChar
  split_ifs with quote backslash dollar newline
  · exact ⟨rfl, rfl⟩
  · exact ⟨rfl, rfl⟩
  · exact ⟨rfl, rfl⟩
  · exact ⟨rfl, rfl⟩
  · simp [words, Nesting.next, quote, backslash]

private theorem quoted_literal (value : List Char) (d : Nat) :
    (quoted d).after (value.flatMap literalChar) = quoted d ∧
      (quoted d).words (value.flatMap literalChar) = [value.flatMap literalChar] := by
  induction value with
  | nil => exact ⟨rfl, rfl⟩
  | cons c value ih =>
    obtain ⟨after_, words_⟩ := quoted_literalChar c d
    rw [List.flatMap_cons]
    refine ⟨by rw [after_append, after_, ih.1], ?_⟩
    rw [words_append, after_, words_, ih.2]
    rfl

/-- A string literal is one piece, whatever is in the string. -/
private theorem compact_stringLiteral (value : String) : Compact (stringLiteral value).toList := by
  have opens (d : Nat) : (plain d).next '"' = quoted d := rfl
  have closes (d : Nat) : (quoted d).after ['"'] = plain d ∧ (quoted d).words ['"'] = [['"']] :=
    ⟨rfl, rfl⟩
  rw [stringLiteral, String.toList_ofList, List.cons_append]
  refine .of_words (fun d => ?_) fun d => ?_
  · obtain ⟨inside, -⟩ := quoted_literal value.toList d
    rw [after_cons, opens, after_append, inside, (closes d).1]
  · obtain ⟨inside, whole⟩ := quoted_literal value.toList d
    rw [words, if_neg fun blank => absurd blank.2 (by decide), opens, words_append, inside, whole,
      (closes d).2]
    rfl

end Literals

/-- The digits of the first whole number that no literal has. -/
def outsized : List Char := Nat.toDigits 10 9223372036854775808

def endsNumber (c : Char) : Bool := !c.isDigit && c != '.' && c != 'e'

/-- The text begins with a whole number that no literal has. -/
def IsOutsized (t : List Char) : Prop :=
  ∃ w, t = outsized ++ w ∧ ∀ c ∈ w.head?, endsNumber c = true

section Outsized

variable {c : Char} {t u rest : List Char}

private theorem outsized_eq : outsized = '9' :: "223372036854775808".toList := by decide

theorem isDigit_of_mem_outsized (h : c ∈ outsized) : c.isDigit = true := isDigit_of_mem_toDigits h

theorem not_isOutsized_of_head (other : c ≠ '9') : ¬ IsOutsized (c :: rest) := by
  rintro ⟨w, same, -⟩
  rw [outsized_eq] at same
  exact other (List.cons.inj same).1

private theorem not_endsNumber_of_isDigit (h : c.isDigit = true) : endsNumber c = false := by
  rw [endsNumber, h]
  rfl

/-- What ends a number ends it where it ended before. -/
theorem not_isOutsized_append (small : ¬ IsOutsized t)
    (ends : ∀ c ∈ u.head?, endsNumber c = true) : ¬ IsOutsized (t ++ u) := by
  rintro ⟨w, same, stops⟩
  rcases List.append_eq_append_iff.mp same with ⟨v, digits, rest⟩ | ⟨v, rfl, rest⟩
  · cases v with
    | nil => exact small ⟨[], by rw [digits, List.append_nil, List.append_nil], by simp⟩
    | cons d v =>
      have digit : d.isDigit = true := isDigit_of_mem_outsized (by rw [digits]; simp)
      have stop := ends d (by rw [rest]; rfl)
      rw [not_endsNumber_of_isDigit digit] at stop
      cases stop
  · refine small ⟨v, rfl, fun d first => stops d ?_⟩
    cases v with
    | nil => cases first
    | cons e v => rwa [rest]

/-- A number of a literal is not that large. -/
private theorem not_isOutsized_toDigits {n : Nat} (small : n < 9223372036854775808) :
    ¬ IsOutsized (Nat.toDigits 10 n) := by
  rintro ⟨w, same, stops⟩
  cases w with
  | nil =>
    rw [List.append_nil, outsized, toDigits_inj] at same
    omega
  | cons c w =>
    have digit : c.isDigit = true := isDigit_of_mem_toDigits (n := n) (by rw [same]; simp)
    have ends := stops c rfl
    rw [not_endsNumber_of_isDigit digit] at ends
    cases ends

private theorem takeWhile_digits {ds w : List Char} (digits : ∀ c ∈ ds, c.isDigit = true)
    (stops : ∀ c ∈ w.head?, c.isDigit = false) : (ds ++ w).takeWhile Char.isDigit = ds := by
  rw [List.takeWhile_append_of_pos digits]
  cases w with
  | nil => rw [List.takeWhile_nil, List.append_nil]
  | cons c w => rw [List.takeWhile_cons_of_neg (by rw [stops c rfl]; decide), List.append_nil]

private theorem not_isOutsized_of_isMagnitude (h : Binary64.IsMagnitude t) : ¬ IsOutsized t := by
  cases h with
  | infinite => exact not_isOutsized_of_head (by decide)
  | @finite ds rest mark some_ digits marked plain =>
    have marks : mark.isDigit = false ∧ endsNumber mark = false := by
      rcases marked with rfl | rfl <;> decide
    rintro ⟨w, same, stops⟩
    have before := takeWhile_digits (w := mark :: rest) digits (by simpa using marks.1)
    have stops_ (c : Char) (first : c ∈ w.head?) : c.isDigit = false := by
      have ends := stops c first
      simp only [endsNumber, Bool.and_eq_true, Bool.not_eq_true'] at ends
      exact ends.1.1
    rw [same, takeWhile_digits (fun c => isDigit_of_mem_outsized) stops_] at before
    rw [before, List.append_cancel_left_eq] at same
    have ends := stops mark (by rw [← same]; rfl)
    rw [marks.2] at ends
    cases ends

end Outsized

def startsWord (c : Char) : Bool := isNameChar c || c == '$' || c == '"'

/-- The text of an expression that is no operator expression, as it looks from outside. -/
structure Word (t : List Char) : Prop where
  compact : Compact t
  starts : ∃ c rest, t = c :: rest ∧ startsWord c = true
  small : ¬ IsOutsized t

section Words

variable {name t u : List Char} {c : Char}

private theorem Word.of_head (compact : Compact (c :: t)) (starts : startsWord c = true)
    (other : c ≠ '9') : Word (c :: t) :=
  ⟨compact, ⟨c, t, rfl, starts⟩, not_isOutsized_of_head other⟩

private theorem word_variable (named : isVariable name = true) (tail : Compact u) :
    Word (name ++ u) := by
  obtain ⟨rest, rfl, -⟩ := exists_of_isVariable named
  exact .of_head ((compact_of_isVariable named).append tail) (by decide) (by decide)

theorem word_identifier (named : isIdentifier name = true) (tail : Compact u) :
    Word (name ++ u) := by
  have whole := (compact_of_isIdentifier named).append tail
  cases name with
  | nil => cases named
  | cons c name =>
    rw [isIdentifier, List.all_cons, List.head?_cons, Option.any_some] at named
    simp only [Bool.and_eq_true, Bool.not_eq_true'] at named
    refine .of_head whole (by rw [startsWord, named.1.1]; rfl) ?_
    rintro rfl
    exact absurd named.2 (by decide)

theorem Word.of_isVariable (named : isVariable name = true) : Word name := by
  simpa using word_variable named .nil

theorem Word.of_isIdentifier (named : isIdentifier name = true) : Word name := by
  simpa using word_identifier named .nil

theorem word_stringLiteral (value : String) : Word (stringLiteral value).toList := by
  have whole := compact_stringLiteral value
  rw [stringLiteral, String.toList_ofList] at whole ⊢
  exact .of_head whole (by decide) (by decide)

private theorem startsWord_of_isDigit (h : c.isDigit = true) : startsWord c = true := by
  rw [startsWord, isNameChar_of_isDigit h]
  rfl

theorem isQuiet_of_isDigit (h : c.isDigit = true) : isQuiet c = true :=
  isQuiet_of_isNameChar (isNameChar_of_isDigit h)

theorem word_digits {n : Nat} (small : n < 9223372036854775808) : Word (Nat.toDigits 10 n) where
  compact := .of_quiet fun c h => isQuiet_of_isDigit (isDigit_of_mem_toDigits h)
  starts := by
    obtain ⟨c, rest, digits⟩ := List.exists_cons_of_ne_nil (Nat.toDigits_ne_nil (n := n))
    have first : c.isDigit = true := isDigit_of_mem_toDigits (digits ▸ List.mem_cons_self)
    exact ⟨c, rest, digits, startsWord_of_isDigit first⟩
  small := not_isOutsized_toDigits small

theorem word_magnitude (h : Binary64.IsMagnitude t) : Word t where
  compact := by
    cases h with
    | infinite => exact .of_all (by decide)
    | finite some_ digits marked plain =>
      refine .of_quiet fun c member => ?_
      rcases List.mem_append.mp member with before | after_
      · exact isQuiet_of_isDigit (digits c before)
      · rcases List.mem_cons.mp after_ with rfl | behind
        · rcases marked with rfl | rfl <;> decide
        · rcases plain c behind with digit | rfl | rfl
          · exact isQuiet_of_isDigit digit
          · decide
          · decide
  starts := by
    cases h with
    | infinite => exact ⟨_, _, rfl, by decide⟩
    | @finite ds rest mark some_ digits marked plain =>
      obtain ⟨c, others, rfl⟩ := List.exists_cons_of_ne_nil some_
      exact ⟨c, _, rfl, startsWord_of_isDigit (digits c List.mem_cons_self)⟩
  small := not_isOutsized_of_isMagnitude h

end Words

end MutationTesting
