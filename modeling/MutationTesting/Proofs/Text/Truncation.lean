import MutationTesting.Proofs.Text.Bytes
import MutationTesting.Proofs.Text.Utf8

/-! Cutting a text to an allowance of bytes keeps as many whole characters as fit. Between two
boundaries there are the bytes of one character, so that a search that goes back over bytes inside
a character ends within three steps, at the latest in front of the text. -/
namespace MutationTesting.Text

variable {c : Char} {cs xs ys : List Char} {bytes : List UInt8} {n k : Nat}

private theorem isContinuation_ofNat (small : n < 256) :
    isContinuation (UInt8.ofNat n) = (0x80 ≤ n && n < 0xC0) := by
  have value : (UInt8.ofNat n).toNat = n := by
    rw [UInt8.toNat_ofNat', Nat.mod_eq_of_lt small]
  rw [isContinuation, value]

/-- A character begins with the only one of its bytes that does not go on with it. -/
private theorem exists_utf8EncodeChar (c : Char) :
    ∃ b bs, String.utf8EncodeChar c = b :: bs ∧ isContinuation b = false ∧
      ∀ d ∈ bs, isContinuation d = true := by
  have later (m : Nat) : isContinuation (UInt8.ofNat (m % 64 + 128)) = true := by
    rw [isContinuation_ofNat (by omega)]
    simp only [Bool.and_eq_true, decide_eq_true_eq]
    omega
  have lead {m : Nat} (small : m < 256) (high : 0xC0 ≤ m) :
      isContinuation (UInt8.ofNat m) = false := by
    rw [isContinuation_ofNat small]
    simp only [Bool.and_eq_false_iff, decide_eq_false_iff_not]
    omega
  unfold String.utf8EncodeChar
  dsimp only
  split
  · refine ⟨_, _, rfl, ?_, nofun⟩
    rw [isContinuation_ofNat (by omega)]
    simp only [Bool.and_eq_false_iff, decide_eq_false_iff_not]
    omega
  · split
    · refine ⟨_, _, rfl, lead (by omega) (by omega), ?_⟩
      simp only [List.forall_mem_cons, later, List.not_mem_nil, false_imp_iff, implies_true,
        and_self]
    · split
      · refine ⟨_, _, rfl, lead (by omega) (by omega), ?_⟩
        simp only [List.forall_mem_cons, later, List.not_mem_nil, false_imp_iff, implies_true,
          and_self]
      · refine ⟨_, _, rfl, lead (by omega) (by omega), ?_⟩
        simp only [List.forall_mem_cons, later, List.not_mem_nil, false_imp_iff, implies_true,
          and_self]

private theorem length_encoded (cs : List Char) :
    (cs.flatMap String.utf8EncodeChar).length = byteSize cs := by
  induction cs with
  | nil => rfl
  | cons c cs ih =>
    rw [List.flatMap_cons, List.length_append, String.length_utf8EncodeChar, ih, byteSize]

private theorem length_toBytes (s : String) : (toBytes s).length = byteSize s.toList := by
  rw [toBytes_eq_flatMap, length_encoded]

private theorem byteSize_toList (s : String) : byteSize s.toList = s.utf8ByteSize := by
  rw [← length_toBytes, toBytes_eq_data, Array.length_toList]
  rfl

private theorem byteSize_append (xs ys : List Char) :
    byteSize (xs ++ ys) = byteSize xs + byteSize ys := by
  induction xs with
  | nil => exact (Nat.zero_add _).symm
  | cons c xs ih => rw [List.cons_append, byteSize, byteSize, ih, Nat.add_assoc]

private theorem isBoundary_iff {n : Nat} : isBoundary bytes n = true ↔
    n = 0 ∨ n = bytes.length ∨ ∃ b, bytes[n]? = some b ∧ isContinuation b = false := by
  unfold isBoundary
  cases here : bytes[n]? with
  | none => simp
  | some b =>
    have inside : n < bytes.length := (List.getElem?_eq_some_iff.mp here).1
    simp [Nat.ne_of_lt inside]

/-- No text begins inside a character. -/
private theorem first_encoded {b : UInt8}
    (first : (cs.flatMap String.utf8EncodeChar)[0]? = some b) : isContinuation b = false := by
  cases cs with
  | nil => cases first
  | cons c cs =>
    obtain ⟨lead, bs, encoded, begins, -⟩ := exists_utf8EncodeChar c
    rw [List.flatMap_cons, encoded] at first
    obtain rfl := Option.some.inj first
    exact begins

/-- Behind its first character a text has the boundaries of the rest, and there are none inside the
character. -/
private theorem isBoundary_encoded_cons :
    isBoundary ((c :: cs).flatMap String.utf8EncodeChar) n = true ↔ n = 0 ∨ c.utf8Size ≤ n ∧
      isBoundary (cs.flatMap String.utf8EncodeChar) (n - c.utf8Size) = true := by
  have size := String.length_utf8EncodeChar c
  have positive := c.utf8Size_pos
  rw [isBoundary_iff, isBoundary_iff, List.flatMap_cons, List.length_append, size]
  rcases Nat.lt_or_ge n c.utf8Size with inside | behind
  · obtain ⟨lead, bs, encoded, -, continues⟩ := exists_utf8EncodeChar c
    have continued (nonzero : n ≠ 0) : ∀ b, (String.utf8EncodeChar c ++
        cs.flatMap String.utf8EncodeChar)[n]? = some b → isContinuation b = true := by
      intro b here
      rw [List.getElem?_append_left (size.symm ▸ inside), encoded] at here
      obtain ⟨m, rfl⟩ := Nat.exists_eq_succ_of_ne_zero nonzero
      exact continues b (List.mem_of_getElem? here)
    constructor
    · rintro (zero | whole | ⟨b, here, begins⟩)
      · exact .inl zero
      · omega
      · refine .inl (Classical.byContradiction fun nonzero => ?_)
        rw [continued nonzero b here] at begins
        cases begins
    · rintro (zero | ⟨past, -⟩)
      · exact .inl zero
      · omega
  · rw [List.getElem?_append_right (size.symm ▸ behind), size]
    constructor
    · rintro (zero | whole | found)
      · omega
      · exact .inr ⟨behind, .inr (.inl (by omega))⟩
      · exact .inr ⟨behind, .inr (.inr found)⟩
    · rintro (zero | ⟨-, front | whole | found⟩)
      · omega
      · rw [front]
        cases first : (cs.flatMap String.utf8EncodeChar)[0]? with
        | none =>
          have none_ := List.getElem?_eq_none_iff.mp first
          exact .inr (.inl (by omega))
        | some b => exact .inr (.inr ⟨b, rfl, first_encoded first⟩)
      · exact .inr (.inl (by omega))
      · exact .inr (.inr found)

/-- The boundaries of a text are the places between its characters. -/
private theorem isBoundary_encoded_iff : isBoundary (cs.flatMap String.utf8EncodeChar) n = true ↔
    ∃ xs ys, cs = xs ++ ys ∧ byteSize xs = n := by
  induction cs generalizing n with
  | nil =>
    rw [isBoundary_iff]
    constructor
    · rintro (rfl | rfl | ⟨b, here, -⟩)
      · exact ⟨[], [], rfl, rfl⟩
      · exact ⟨[], [], rfl, rfl⟩
      · cases here
    · rintro ⟨xs, ys, split, rfl⟩
      obtain ⟨rfl, rfl⟩ := List.append_eq_nil_iff.mp split.symm
      exact .inl rfl
  | cons c cs ih =>
    rw [isBoundary_encoded_cons, ih]
    constructor
    · rintro (rfl | ⟨behind, xs, ys, rfl, size⟩)
      · exact ⟨[], c :: cs, rfl, rfl⟩
      · exact ⟨c :: xs, ys, rfl, by rw [byteSize]; omega⟩
    · rintro ⟨xs, ys, split, rfl⟩
      cases xs with
      | nil => exact .inl rfl
      | cons d xs =>
        obtain ⟨rfl, rfl⟩ := List.cons.inj split
        exact .inr ⟨Nat.le_add_right _ _, xs, ys, rfl, (Nat.add_sub_cancel_left ..).symm⟩

/-- The search goes back to the nearest boundary. It never goes on from the front, since that is
one. -/
private theorem exists_boundaryFrom? (bytes : List UInt8) (n : Nat) :
    ∃ k ≤ n, boundaryFrom? bytes n = some k ∧ isBoundary bytes k = true ∧
      ∀ j ≤ n, isBoundary bytes j = true → j ≤ k := by
  have front : isBoundary bytes 0 = true := isBoundary_iff.mpr (.inl rfl)
  induction n with
  | zero => exact ⟨0, Nat.le_refl 0, if_pos front, front, fun j within _ => within⟩
  | succ n ih =>
    by_cases here : isBoundary bytes (n + 1) = true
    · exact ⟨n + 1, Nat.le_refl _, if_pos here, here, fun j within _ => within⟩
    · obtain ⟨k, within, found, ends, nearest⟩ := ih
      refine ⟨k, Nat.le_succ_of_le within, (if_neg here).trans found, ends, fun j below ends => ?_⟩
      rcases Nat.lt_or_eq_of_le below with earlier | rfl
      · exact nearest j (Nat.le_of_lt_succ earlier) ends
      · exact absurd ends here

private theorem slice?_front (a b : String) : slice? (a ++ b) 0 a.utf8ByteSize = some a := by
  have cut := cut?_append "" a b
  rw [String.empty_append, byteSize_toList, byteSize_toList, String.utf8ByteSize_empty,
    Nat.zero_add] at cut
  rw [slice?, cut]
  rfl

/-- Of two beginnings of a text the one with fewer bytes is a beginning of the other. -/
private theorem exists_eq_append_of_le {p q rest rest' : String} (same : p ++ rest = q ++ rest')
    (le : p.utf8ByteSize ≤ q.utf8ByteSize) : ∃ more, q = p ++ more := by
  have chars : p.toList ++ rest.toList = q.toList ++ rest'.toList := by
    rw [← String.toList_append, same, String.toList_append]
  rcases List.append_eq_append_iff.mp chars with ⟨more, longer, -⟩ | ⟨more, longer, -⟩
  · refine ⟨String.ofList more, String.toList_injective ?_⟩
    rw [String.toList_append, String.toList_ofList, longer]
  · -- The other way round nothing can be left over.
    have size := byteSize_append q.toList more
    rw [← longer, byteSize_toList, byteSize_toList] at size
    cases more with
    | nil => exact ⟨"", String.toList_injective (by simpa using longer.symm)⟩
    | cons c more =>
      have positive := c.utf8Size_pos
      rw [byteSize] at size
      omega

/-- The places between the characters of a text are the ends of its beginnings. -/
private theorem isBoundary_toBytes_iff {text : String} : isBoundary (toBytes text) n = true ↔
    ∃ p rest : String, text = p ++ rest ∧ p.utf8ByteSize = n := by
  rw [toBytes_eq_flatMap, isBoundary_encoded_iff]
  constructor
  · rintro ⟨xs, ys, split, rfl⟩
    refine ⟨String.ofList xs, String.ofList ys, String.toList_injective ?_, ?_⟩
    · rw [String.toList_append, String.toList_ofList, String.toList_ofList, split]
    · rw [← byteSize_toList, String.toList_ofList]
  · rintro ⟨p, rest, rfl, rfl⟩
    exact ⟨p.toList, rest.toList, String.toList_append, byteSize_toList p⟩

/-- A text of more than `max` bytes is cut at the last boundary within the allowance. The next
character would not have fit, and it has four bytes at most. -/
private theorem exists_truncate? {text : String} {max : Nat} (long : max < text.utf8ByteSize) :
    ∃ q rest : String, text = q ++ rest ∧ truncate? text max = some (q ++ "...(truncated)") ∧
      q.utf8ByteSize ≤ max ∧
      (∀ p rest' : String, text = p ++ rest' → p.utf8ByteSize ≤ max → ∃ more, q = p ++ more) ∧
      max < q.utf8ByteSize + 4 := by
  obtain ⟨stop, within, found, ends, last⟩ := exists_boundaryFrom? (toBytes text) max
  obtain ⟨q, rest, rfl, rfl⟩ := isBoundary_toBytes_iff.mp ends
  have longest (p rest' : String) (split : q ++ rest = p ++ rest') (fits : p.utf8ByteSize ≤ max) :
      p.utf8ByteSize ≤ q.utf8ByteSize :=
    last _ fits (isBoundary_toBytes_iff.mpr ⟨p, rest', split, rfl⟩)
  refine ⟨q, rest, rfl, ?_, within, ?_, ?_⟩
  · rw [truncate?, byteSize_toList, if_neg (Nat.not_le.mpr long), found]
    simp [slice?_front]
  · intro p rest' split fits
    exact exists_eq_append_of_le split.symm (longest p rest' split fits)
  · rw [String.utf8ByteSize_append] at long
    cases chars : rest.toList with
    | nil =>
      have none_ := byteSize_toList rest
      rw [chars, byteSize] at none_
      omega
    | cons c cs =>
      refine Nat.lt_of_not_le fun unused => ?_
      have next : (q ++ String.ofList [c]).utf8ByteSize = q.utf8ByteSize + c.utf8Size := by
        rw [String.utf8ByteSize_append, ← byteSize_toList (String.ofList [c]), String.toList_ofList]
        rfl
      have split : q ++ rest = q ++ String.ofList [c] ++ String.ofList cs := by
        apply String.toList_injective
        simp [chars]
      have small := c.utf8Size_le_four
      have positive := c.utf8Size_pos
      have fits := longest _ _ split (by omega)
      omega

/-- Truncating comes to an end, and the search for a boundary that it makes does not go below the
front of the text. A text within the allowance stays as it is. Of a longer one the longest beginning
of whole characters within the allowance is left, which uses all of the allowance but three bytes at
most, and the mark follows it. -/
theorem truncate_keeps_longest_beginning (text : String) (max : Nat) :
    (∃ stop ≤ max, boundaryFrom? (toBytes text) max = some stop) ∧
    ∃ r, truncate? text max = some r ∧ truncate text max = r ∧
      (text.utf8ByteSize ≤ max → r = text) ∧
      (max < text.utf8ByteSize → ∃ q rest : String, text = q ++ rest ∧ r = q ++ "...(truncated)" ∧
        q.utf8ByteSize ≤ max ∧
        (∀ p rest' : String, text = p ++ rest' → p.utf8ByteSize ≤ max → ∃ more, q = p ++ more) ∧
        max < q.utf8ByteSize + 4) := by
  obtain ⟨stop, within, found, -⟩ := exists_boundaryFrom? (toBytes text) max
  refine ⟨⟨stop, within, found⟩, ?_⟩
  rcases Nat.lt_or_ge max text.utf8ByteSize with long | short
  · obtain ⟨q, rest, split, cut, kept⟩ := exists_truncate? long
    refine ⟨_, cut, by rw [truncate, cut, Option.getD_some], fun short => ?_, fun _ => ?_⟩
    · exact absurd long (Nat.not_lt.mpr short)
    · exact ⟨q, rest, split, rfl, kept⟩
  · have whole : truncate? text max = some text := by
      rw [truncate?, byteSize_toList, if_pos short]
    refine ⟨text, whole, by rw [truncate, whole, Option.getD_some], fun _ => rfl, fun long => ?_⟩
    exact absurd long (Nat.not_lt.mpr short)

/-- Three bytes of a text whose characters have two bytes each: the second character is not whole
among them. -/
theorem sample_truncate_keeps_longest_beginning :
    3 < "éééé".utf8ByteSize ∧ ∃ q rest : String, "éééé" = q ++ rest ∧
      truncate "éééé" 3 = q ++ "...(truncated)" ∧ q.utf8ByteSize ≤ 3 ∧ (∃ more, q = "é" ++ more) ∧
      3 < q.utf8ByteSize + 4 := by
  have long : 3 < "éééé".utf8ByteSize := by decide
  obtain ⟨-, r, -, cut, -, kept⟩ := truncate_keeps_longest_beginning "éééé" 3
  obtain ⟨q, rest, split, rfl, fits, longest, used⟩ := kept long
  exact ⟨long, q, rest, split, cut, fits, longest "é" "ééé" rfl (by decide), used⟩

example : truncate "éééé" 3 = "é...(truncated)" := by decide +kernel

end MutationTesting.Text
