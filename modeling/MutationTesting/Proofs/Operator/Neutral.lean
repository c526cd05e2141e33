import MutationTesting.Operator.Swap
import MutationTesting.Proofs.Number.Rounding

/-! The arithmetic swaps leave alone exactly what they cannot change.

An operand that makes a swap pointless is a literal whose magnitude is zero or one, below any number
of minus signs. -/
namespace MutationTesting

namespace Node

def unsigned : Node → Node
  | ⟨.negate, c :: _, _, _⟩ => unsigned c
  | n => n

/-- A literal of a whole magnitude: the integer itself, or the exact value of the double. -/
def IsLiteralOf (n : Node) (k : Nat) : Prop :=
  match n.kind with
  | .int value => value.toInt.natAbs = k
  | .float value => value.isFinite = true ∧ value.units = k * Binary64.unitsPerOne
  | _ => False

/-- A node in any number of minus signs, none included. -/
inductive Negates (n : Node) : Node → Prop where
  | self : Negates n n
  | negate {m : Node} (rest : List Node) (span : Option Span) (attributes : Attributes)
      (inner : Negates n m) : Negates n ⟨.negate, m :: rest, span, attributes⟩

private theorem Negates.unsigned_eq {n m : Node} (h : n.Negates m) : m.unsigned = n.unsigned := by
  induction h with
  | self => rfl
  | negate rest span attributes inner ih => rw [unsigned, ih]

end Node

section Literals

variable {k : Nat} {p : Binary64 → Bool}

/-- A test that looks at the code only is passed by the literals of a magnitude, whatever minus
signs stand in front of them. -/
private theorem any_literalValue?_iff (small : k + 1 < 9007199254740992)
    (test : ∀ x, p x = true ↔ x.code = (Binary64.ofNat k).code) (n : Node) :
    (literalValue? n).any p = true ↔ n.unsigned.IsLiteralOf k := by
  have flip (x : Binary64) : p x.neg = p x := by
    rw [Bool.eq_iff_iff, test, test]
    rfl
  fun_induction literalValue? n with
  | case1 value =>
    rw [Option.any_some, test, Binary64.code_ofInt, Binary64.code_ofNat_inj small]
    rfl
  | case2 value =>
    rw [Option.any_some, test, Binary64.code_eq_code_ofNat_iff (by omega)]
    rfl
  | case3 c rest span attributes ih =>
    simp only [Option.any_map, flip]
    exact ih
  | case4 n noInt noFloat noOperand =>
    rw [Option.any_none]
    apply iff_of_false Bool.false_ne_true
    obtain ⟨kind, children, span, attributes⟩ := n
    cases kind with
    | int value => exact (noInt _ _ _ _ rfl).elim
    | float value => exact (noFloat _ _ _ _ rfl).elim
    | negate =>
      cases children with
      | nil => exact id
      | cons c rest => exact (noOperand _ _ _ _ rfl).elim
    | _ => exact id

private theorem isZeroLiteral_iff (n : Node) : isZeroLiteral n = true ↔ n.unsigned.IsLiteralOf 0 :=
  any_literalValue?_iff (by decide) (fun _ => Binary64.numEq_zero_iff) n

private theorem isUnitLiteral_iff (n : Node) : isUnitLiteral n = true ↔ n.unsigned.IsLiteralOf 1 :=
  any_literalValue?_iff (by decide)
    (fun _ => Binary64.Unsigned.abs_numEq_iff (.ofNat (by decide))) n

/-- Rounding takes no other integer for zero. -/
private theorem ofInt_numEq_zero_iff (value : Int64) :
    (Binary64.ofInt value.toInt).numEq .zero = true ↔ value = 0 := by
  rw [Binary64.numEq_zero_iff, Binary64.code_ofInt, Binary64.code_ofNat_inj (by decide),
    Int.natAbs_eq_zero, ← Int64.toInt_inj]
  rfl

/-- Rounding takes no other integer for a unit. -/
private theorem ofInt_abs_numEq_one_iff (value : Int64) :
    (Binary64.ofInt value.toInt).abs.numEq .one = true ↔ value = 1 ∨ value = -1 := by
  have bounded : Binary64.Unsigned .one := .ofNat (by decide)
  rw [bounded.abs_numEq_iff, Binary64.code_ofInt, Binary64.one,
    Binary64.code_ofNat_inj (by decide), Int.natAbs_eq_iff, ← Int64.toInt_inj, ← Int64.toInt_inj]
  rfl

end Literals

namespace ArithmeticSwap

variable {s : ArithmeticSwap} {n left right left' right' : Node}

/-- Whether the operator and the one put in its place compute the same for two operands: zero is
added or taken away, or a unit is divided by or multiplied with. -/
def IsNeutral : ArithmeticSwap → Node → Node → Prop
  | plus, _, right | minus, _, right => right.unsigned.IsLiteralOf 0
  | multiplication, left, right => left.unsigned.IsLiteralOf 1 ∨ right.unsigned.IsLiteralOf 1
  | division, _, right => right.unsigned.IsLiteralOf 1

private theorem isEquivalent_iff : s.isEquivalent left right = true ↔ s.IsNeutral left right := by
  cases s with
  | plus => exact isZeroLiteral_iff right
  | minus => exact isZeroLiteral_iff right
  | multiplication =>
    rw [isEquivalent, Bool.or_eq_true, isUnitLiteral_iff, isUnitLiteral_iff]
    rfl
  | division => exact isUnitLiteral_iff right

/-- Minus signs in front of the operands do not bear on the result. -/
private theorem isNeutral_negates (hl : left.Negates left') (hr : right.Negates right') :
    s.IsNeutral left' right' ↔ s.IsNeutral left right := by
  cases s with
  | plus | minus | division => rw [IsNeutral, IsNeutral, hr.unsigned_eq]
  | multiplication => rw [IsNeutral, IsNeutral, hl.unsigned_eq, hr.unsigned_eq]

private theorem applies_of_operands (kind : n.kind = .binary s.source)
    (children : n.children = [left, right]) :
    s.applies n = true ↔ ¬ s.IsNeutral left right := by
  rw [applies, kind, children, ← isEquivalent_iff]
  simp

/-- A swap applies to its own operator between two operands only. -/
private theorem operands_of_applies (h : s.applies n = true) :
    n.kind = .binary s.source ∧ n.children.length = 2 := by
  unfold applies at h
  split at h
  · next op left right kind children =>
    rw [Bool.and_eq_true, beq_iff_eq] at h
    exact ⟨by rw [kind, h.1], by rw [children]; rfl⟩
  · cases h

/-- A swap leaves its own operator alone exactly where the other one computes the same, whatever
minus signs stand in front of the operands, and applies to nothing else; no integer is taken for
zero or a unit that is none. -/
theorem applies_unless_neutral (s : ArithmeticSwap) (n : Node) :
    (∀ left right, n.kind = .binary s.source → n.children = [left, right] →
      (s.applies n = false ↔ s.IsNeutral left right) ∧
        ∀ left' right', left.Negates left' → right.Negates right' →
          s.applies { n with children := [left', right'] } = s.applies n) ∧
      (¬ (n.kind = .binary s.source ∧ n.children.length = 2) → s.applies n = false) ∧
      ∀ value : Int64, ((Binary64.ofInt value.toInt).numEq .zero = true ↔ value = 0) ∧
        ((Binary64.ofInt value.toInt).abs.numEq .one = true ↔ value = 1 ∨ value = -1) := by
  refine ⟨fun left right kind children => ⟨?_, fun left' right' hl hr => ?_⟩, fun other => ?_,
    fun value => ⟨ofInt_numEq_zero_iff value, ofInt_abs_numEq_one_iff value⟩⟩
  · rw [← Bool.not_eq_true, applies_of_operands kind children, not_not]
  · rw [Bool.eq_iff_iff, applies_of_operands kind children,
      applies_of_operands (n := { n with children := [left', right'] }) kind rfl,
      isNeutral_negates hl hr]
  · rw [← Bool.not_eq_true]
    exact fun applied => other (operands_of_applies applied)

/-- The product of a variable and of one below two minus signs is left alone. -/
theorem sample_applies_unless_neutral :
    let unit : Node := .leaf (.int 1)
    let negated : Node := { kind := .negate, children := [{ kind := .negate, children := [unit] }] }
    let product : Node := { kind := .binary .mul, children := [.leaf (.variableRef "$b"), unit] }
    multiplication.applies
        { product with children := [.leaf (.variableRef "$b"), negated] } = false ∧
      multiplication.applies unit = false := by
  intro unit negated product
  have own := (applies_unless_neutral multiplication product).1 _ _ rfl rfl
  have signs : unit.Negates negated := .negate [] none {} (.negate [] none {} .self)
  constructor
  · rw [own.2 _ negated .self signs]
    exact own.1.mpr (.inr rfl)
  · apply (applies_unless_neutral multiplication unit).2.1
    rintro ⟨kind, -⟩
    cases kind

end ArithmeticSwap
end MutationTesting
