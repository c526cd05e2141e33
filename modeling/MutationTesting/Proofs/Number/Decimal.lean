import MutationTesting.Number.Decimal
import MutationTesting.Proofs.Number.Digits

/-! The texts of floating point literals. -/
namespace MutationTesting.Binary64

/-- The text of a number without its sign: digits up to a point or an exponent, which no whole
number has, and what follows it. -/
inductive IsMagnitude : List Char → Prop
  | infinite : IsMagnitude ['i', 'n', 'f']
  | finite {ds rest : List Char} {mark : Char} (some_ : ds ≠ [])
      (digits : ∀ c ∈ ds, c.isDigit = true) (marked : mark = '.' ∨ mark = 'e')
      (plain : ∀ c ∈ rest, c.isDigit = true ∨ c = 'e' ∨ c = '-') :
      IsMagnitude (ds ++ mark :: rest)

section Digits

variable {n : Nat} {c : Char}

private theorem isDigit_of_mem_digitsOf (h : c ∈ digitsOf n) : c.isDigit = true :=
  isDigit_of_mem_toDigits h

private theorem digitsOf_ne_nil : digitsOf n ≠ [] := Nat.toDigits_ne_nil

private theorem isDigit_of_mem_zeros (h : c ∈ List.replicate n '0') : c.isDigit = true := by
  rw [List.eq_of_mem_replicate h]
  decide

private theorem isDigit_of_mem_append {cs ds : List Char} (hc : ∀ c ∈ cs, c.isDigit = true)
    (hd : ∀ c ∈ ds, c.isDigit = true) : ∀ c ∈ cs ++ ds, c.isDigit = true :=
  fun _ h => (List.mem_append.mp h).elim (hc _) (hd _)

/-- A point between two runs of digits, the second of which gets a digit if it has none. -/
private theorem isMagnitude_point {whole rest : List Char} (some_ : whole ≠ [])
    (digits : ∀ c ∈ whole, c.isDigit = true) (decimals : ∀ c ∈ rest, c.isDigit = true) :
    IsMagnitude
      (let rest := rest ++ List.replicate (1 - rest.length) '0'
       if rest.isEmpty then whole else whole ++ '.' :: rest) := by
  have padded : (rest ++ List.replicate (1 - rest.length) '0').isEmpty = false := by
    cases rest <;> rfl
  dsimp only
  rw [padded, if_neg Bool.false_ne_true]
  exact .finite some_ digits (.inl rfl) fun c h =>
    .inl (isDigit_of_mem_append decimals (fun _ => isDigit_of_mem_zeros) c h)

end Digits

private theorem isMagnitude_positional (d : Decimal) : IsMagnitude (positional d 1) := by
  have some_ : digitsOf d.digits ≠ [] := digitsOf_ne_nil
  unfold positional
  split
  · exact isMagnitude_point (List.append_ne_nil_of_left_ne_nil some_ _)
      (isDigit_of_mem_append (fun _ => isDigit_of_mem_digitsOf) fun _ => isDigit_of_mem_zeros)
      (by simp)
  · dsimp only
    split
    · next shorter =>
      refine isMagnitude_point ?_ (fun c h => isDigit_of_mem_digitsOf (List.mem_of_mem_take h))
        fun c h => isDigit_of_mem_digitsOf (List.mem_of_mem_drop h)
      rw [Ne, List.take_eq_nil_iff, not_or]
      exact ⟨by omega, some_⟩
    · have zero : ∀ c ∈ ['0'], c.isDigit = true := List.forall_mem_singleton.mpr rfl
      exact isMagnitude_point (List.cons_ne_nil _ _) zero
        (isDigit_of_mem_append (fun _ => isDigit_of_mem_zeros) fun _ => isDigit_of_mem_digitsOf)

private theorem mem_toString_int {i : Int} {c : Char} (h : c ∈ (toString i).toList) :
    c.isDigit = true ∨ c = '-' := by
  by_cases neg : i < 0
  · rw [toList_toString_of_neg neg, List.mem_cons] at h
    exact h.symm.imp_left isDigit_of_mem_toDigits
  · rw [toList_toString_of_nonneg (Int.not_lt.mp neg)] at h
    exact .inl (isDigit_of_mem_toDigits h)

private theorem isMagnitude_scientific (d : Decimal) : IsMagnitude (scientific d) := by
  obtain ⟨first, others, digits⟩ := List.exists_cons_of_ne_nil (digitsOf_ne_nil (n := d.digits))
  have all_ (c : Char) (h : c ∈ first :: others) : c.isDigit = true :=
    isDigit_of_mem_digitsOf (digits ▸ h)
  have leading : ∀ c ∈ [first], c.isDigit = true := fun c h =>
    all_ c (List.mem_cons.mpr (.inl (List.mem_singleton.mp h)))
  unfold scientific
  rw [digits]
  cases others with
  | nil =>
    exact .finite (List.cons_ne_nil _ _) leading (.inr rfl) fun c h =>
      (mem_toString_int h).imp_right .inr
  | cons second others =>
    refine @IsMagnitude.finite [first] (second :: others ++ 'e' :: _) '.' (List.cons_ne_nil _ _)
      leading (.inl rfl) fun c h => ?_
    rcases List.mem_append.mp h with here | exponent
    · exact .inl (all_ c (List.mem_cons_of_mem _ here))
    · rcases List.mem_cons.mp exponent with rfl | below
      · exact .inr (.inl rfl)
      · exact (mem_toString_int below).imp_right .inr

def magnitudeText (x : Binary64) : List Char :=
  if x.isInfinite then "inf".toList
  else if x.isZero || (lastSmall.atMost x.abs && x.abs.less firstLarge) then
    positional x.decimal 1
  else scientific x.decimal

theorem isMagnitude_magnitudeText (x : Binary64) : IsMagnitude x.magnitudeText := by
  unfold magnitudeText
  split
  · exact .infinite
  · split
    · exact isMagnitude_positional _
    · exact isMagnitude_scientific _

/-- A literal is a magnitude, behind a minus if the number has the sign. -/
theorem toList_literalText {x : Binary64} (number : x.isNaN = false) :
    x.literalText.toList = if x.negative then '-' :: x.magnitudeText else x.magnitudeText := by
  rw [literalText, signed, number, if_neg Bool.false_ne_true]
  dsimp only
  rw [String.toList_ofList]
  rfl

private theorem magnitudeText_abs (x : Binary64) : x.abs.magnitudeText = x.magnitudeText := rfl

theorem toList_literalText_abs {x : Binary64} (number : x.isNaN = false) :
    x.abs.literalText.toList = x.magnitudeText := by
  have same : x.abs.isNaN = x.isNaN := rfl
  have positive : x.abs.negative = false := rfl
  rw [toList_literalText (same.trans number), positive, if_neg Bool.false_ne_true,
    magnitudeText_abs]

theorem literalText_nan {x : Binary64} (h : x.isNaN = true) : x.literalText = "NaN" := by
  rw [literalText, signed, if_pos h]

end MutationTesting.Binary64
