import MutationTesting.Digest.Sha256

/-! Numbers as bytes and bytes as digits: what the written form keeps. -/
namespace MutationTesting.Sha256

@[simp] theorem length_bigEndian (n count : Nat) : (bigEndian n count).length = count := by
  induction count with
  | zero => rfl
  | succ count ih => rw [bigEndian, List.length_cons, ih]

/-- The bytes of a number tell it up to multiples of what they can hold. -/
theorem mod_eq_of_bigEndian_eq {m n count : Nat} (h : bigEndian m count = bigEndian n count) :
    m % Nat.pow 256 count = n % Nat.pow 256 count := by
  induction count with
  | zero => exact (Nat.mod_one m).trans (Nat.mod_one n).symm
  | succ count ih =>
    obtain ⟨first, rest⟩ := List.cons.inj h
    have first : m / Nat.pow 256 count % 256 = n / Nat.pow 256 count % 256 :=
      congrArg UInt8.toNat first
    have split (k : Nat) : k % Nat.pow 256 (count + 1) =
        k % Nat.pow 256 count + Nat.pow 256 count * (k / Nat.pow 256 count % 256) :=
      Nat.mod_pow_succ
    rw [split, split, ih rest, first]

private theorem hexDigit_inj {m n : Nat} (hm : m < 16) (hn : n < 16)
    (h : hexDigit m = hexDigit n) : m = n := by
  have all : ∀ i : Fin 16, ∀ j : Fin 16, hexDigit i = hexDigit j → i = j := by decide
  exact congrArg Fin.val (all ⟨m, hm⟩ ⟨n, hn⟩ h)

private theorem hexByte_inj {a b : UInt8} (h : hexByte a = hexByte b) : a = b := by
  obtain ⟨high, rest⟩ := List.cons.inj h
  obtain ⟨low, -⟩ := List.cons.inj rest
  have ha := a.toNat_lt
  have hb := b.toNat_lt
  have high := hexDigit_inj (by omega) (by omega) high
  have low := hexDigit_inj (by omega) (by omega) low
  exact UInt8.toNat_inj.mp (by omega)

theorem take_flatMap_hexByte (bytes : List UInt8) (count : Nat) :
    (bytes.flatMap hexByte).take (2 * count) = (bytes.take count).flatMap hexByte := by
  induction count generalizing bytes with
  | zero => rfl
  | succ count ih =>
    cases bytes with
    | nil => rfl
    | cons b bytes =>
      rw [List.take_succ_cons, List.flatMap_cons, List.flatMap_cons, ← ih bytes]
      rfl

theorem flatMap_hexByte_inj {as bs : List UInt8} :
    as.flatMap hexByte = bs.flatMap hexByte ↔ as = bs := by
  refine ⟨fun h => ?_, congrArg _⟩
  induction as generalizing bs with
  | nil =>
    cases bs with
    | nil => rfl
    | cons b bs => cases h
  | cons a as ih =>
    cases bs with
    | nil => cases h
    | cons b bs =>
      rw [List.flatMap_cons, List.flatMap_cons] at h
      obtain ⟨first, rest⟩ := List.append_inj h rfl
      rw [hexByte_inj first, ih rest]

end MutationTesting.Sha256
