import Mathlib.Data.List.TakeDrop
import Mathlib.Data.List.TakeWhile
import MutationTesting.Json.Parser
import MutationTesting.Proofs.Number.Digits

/-! A whole number without sign is read from its decimal digits and from nothing else. -/
namespace MutationTesting.Json

variable {c : Char} {cs ds rest : List Char} {n : Nat} {i : Int}

private theorem digit_bounds (digit : c.isDigit = true) : 48 ≤ c.toNat ∧ c.toNat ≤ 57 :=
  Char.isDigit_iff_toNat.mp digit

private theorem toDigits_digit (digit : c.isDigit = true) :
    Nat.toDigits 10 (c.toNat - 48) = [c] := by
  obtain ⟨low, high⟩ := digit_bounds digit
  have small : c.toNat - 48 < 10 := by omega
  have same : Nat.digitChar (c.toNat - 48) = c := by
    apply Char.toNat_inj.mp
    rw [Nat.toNat_digitChar_of_lt_ten small]
    omega
  rw [Nat.toDigits_of_lt_base small, same]

/-- Digits behind those of a positive number are the digits of one number. -/
private theorem toDigits_foldl (positive : 0 < n) (digits : ∀ d ∈ ds, d.isDigit = true) :
    Nat.toDigits 10 (ds.foldl (fun n d => 10 * n + (d.toNat - 48)) n) =
      Nat.toDigits 10 n ++ ds := by
  induction ds generalizing n with
  | nil => exact (List.append_nil _).symm
  | cons d ds ih =>
    obtain ⟨digit, digits⟩ := List.forall_mem_cons.mp digits
    have small : d.toNat - 48 < 10 := by
      have := digit_bounds digit
      omega
    calc
      _ = Nat.toDigits 10 (10 * n + (d.toNat - 48)) ++ ds := ih (by omega) digits
      _ = Nat.toDigits 10 n ++ Nat.toDigits 10 (d.toNat - 48) ++ ds := by
        rw [Nat.toDigits_append_toDigits (by decide) positive small]
      _ = Nat.toDigits 10 n ++ d :: ds := by
        rw [toDigits_digit digit, List.append_assoc, List.singleton_append]

/-- Digits that do not start with a superfluous zero are those of their number. -/
private theorem toDigits_digitsValue (digits : ∀ d ∈ c :: ds, d.isDigit = true)
    (spare : c = '0' → ds = []) : Nat.toDigits 10 (digitsValue (c :: ds)) = c :: ds := by
  obtain ⟨digit, digits⟩ := List.forall_mem_cons.mp digits
  rw [digitsValue, List.foldl_cons, Nat.mul_zero, Nat.zero_add]
  by_cases zero : c = '0'
  · rw [spare zero, List.foldl_nil, toDigits_digit digit]
  · have positive : 0 < c.toNat - 48 := by
      have low := (digit_bounds digit).1
      have differs : c.toNat ≠ 48 := fun same => zero (Char.toNat_inj.mp same)
      omega
    rw [toDigits_foldl positive digits, toDigits_digit digit, List.singleton_append]

private theorem wholePart?_eq_some (read : wholePart? cs = some (ds, rest)) :
    cs = ds ++ rest ∧ Nat.toDigits 10 (digitsValue ds) = ds := by
  have digits : ∀ d ∈ cs.takeWhile Char.isDigit, d.isDigit = true :=
    fun d member => List.mem_takeWhile_imp member
  have parts : cs.takeWhile Char.isDigit ++ cs.dropWhile Char.isDigit = cs :=
    List.takeWhile_append_dropWhile
  rw [wholePart?, spanDigits, List.span_eq_takeWhile_dropWhile] at read
  generalize cs.takeWhile Char.isDigit = whole at *
  split at read
  · cases read
  · cases read
  · next missing spare =>
    cases read
    refine ⟨parts.symm, ?_⟩
    match ds with
    | [] => exact (missing _ rfl).elim
    | [c] => exact toDigits_digitsValue digits fun _ => rfl
    | c :: d :: ds =>
      refine toDigits_digitsValue digits ?_
      rintro rfl
      exact (spare _ _ _ rfl).elim

private theorem fractionPart?_eq_nil (read : fractionPart? cs = some ([], rest)) : cs = rest := by
  rw [fractionPart?.eq_def] at read
  split at read
  · split at read
    · cases read
    · next missing => exact (missing _ (Option.some.inj read)).elim
  · cases read
    rfl

private theorem exponentPart?_eq_none (read : exponentPart? cs = some (none, rest)) :
    cs = rest := by
  rw [exponentPart?.eq_def] at read
  split at read
  · split at read
    · split at read
      split at read
      · cases read
      · simp at read
    · cases read
      rfl
  · cases read
    rfl

private theorem finite?_ne_int {x : Binary64} : finite? x ≠ some (.int i) := by
  rw [finite?]
  split <;> simp

private theorem wholeNumber?_eq_int {negative : Bool}
    (read : wholeNumber? negative n = some (.int i))
    (nonneg : 0 ≤ i) : negative = false ∧ i.toNat = n := by
  rw [wholeNumber?] at read
  cases negative with
  | true =>
    rw [if_pos rfl] at read
    split at read
    · cases read
      omega
    · exact (finite?_ne_int read).elim
  | false =>
    rw [if_neg Bool.false_ne_true] at read
    split at read
    · cases read
      exact ⟨rfl, rfl⟩
    · exact (finite?_ne_int read).elim

/-- What is read as a whole number without sign starts with the digits of that number. -/
theorem number?_eq_int (read : number? cs = some (.int i, rest)) (nonneg : 0 ≤ i) :
    cs = Nat.toDigits 10 i.toNat ++ rest := by
  rw [number?.eq_def] at read
  split at read
  next negative unsigned signed =>
    obtain ⟨⟨whole, behind⟩, digits, read⟩ := Option.bind_eq_some_iff.mp read
    obtain ⟨⟨fraction, after⟩, point, read⟩ := Option.bind_eq_some_iff.mp read
    obtain ⟨⟨exponent, last⟩, mark, read⟩ := Option.bind_eq_some_iff.mp read
    dsimp only at point mark read
    split at read
    · next bare =>
      obtain ⟨value, integer, same⟩ := Option.bind_eq_some_iff.mp read
      cases same
      obtain ⟨rfl, value_eq⟩ := wholeNumber?_eq_int integer nonneg
      obtain ⟨rfl, canonical⟩ := wholePart?_eq_some digits
      rw [List.isEmpty_iff.mp bare.1] at point
      rw [Option.isNone_iff_eq_none.mp bare.2] at mark
      rw [value_eq, canonical, ← exponentPart?_eq_none mark, ← fractionPart?_eq_nil point]
      split at signed
      · cases signed
      · cases signed
        rfl
    · obtain ⟨value, real, same⟩ := Option.bind_eq_some_iff.mp read
      cases same
      exact (finite?_ne_int real).elim

end MutationTesting.Json
