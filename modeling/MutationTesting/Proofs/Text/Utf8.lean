import MutationTesting.Text.Utf8

/-! The bytes of a text tell the text, and a zero byte stands for the zero character only. -/
namespace MutationTesting.Text

private theorem toList_loop (bs : ByteArray) (i : Nat) (seen : List UInt8) :
    ByteArray.toList.loop bs i seen = seen.reverse ++ bs.data.toList.drop i := by
  induction i, seen using ByteArray.toList.loop.induct bs with
  | case1 i seen inside ih =>
    have here : i < bs.data.toList.length := inside
    have byte : bs.get! i = bs.data.toList[i] := getElem!_pos bs.data i inside
    rw [ByteArray.toList.loop, if_pos inside, ih, List.drop_eq_getElem_cons here, byte]
    simp
  | case2 i seen past =>
    have done : bs.data.toList.length ≤ i := Nat.le_of_not_lt past
    rw [ByteArray.toList.loop, if_neg past, List.drop_eq_nil_of_le done, List.append_nil]

theorem toBytes_eq_data (s : String) : toBytes s = s.toByteArray.data.toList := by
  rw [toBytes, String.toUTF8_eq_toByteArray, ByteArray.toList, toList_loop]
  rfl

theorem toBytes_eq_flatMap (s : String) : toBytes s = s.toList.flatMap String.utf8EncodeChar := by
  have encoded : s.toByteArray = s.toList.utf8Encode := by
    rw [← String.toByteArray_ofList, String.ofList_toList]
  rw [toBytes_eq_data, encoded, List.utf8Encode, List.toList_data_toByteArray]

theorem toBytes_inj {s t : String} : toBytes s = toBytes t ↔ s = t := by
  rw [toBytes_eq_data, toBytes_eq_data, Array.toList_inj, ← ByteArray.ext_iff,
    String.toByteArray_inj]

private theorem ofNat_ne_zero {n : Nat} (positive : 0 < n) (small : n < 256)
    (same : 0 = UInt8.ofNat n) : False := by
  have value : 0 = n % 256 := congrArg UInt8.toNat same
  rw [Nat.mod_eq_of_lt small] at value
  exact Nat.ne_of_lt positive value

private theorem eq_of_zero_mem_utf8EncodeChar {c : Char} (h : 0 ∈ String.utf8EncodeChar c) :
    c = '\x00' := by
  rw [String.utf8EncodeChar] at h
  split at h
  · rcases Nat.eq_zero_or_pos c.val.toNat with zero | positive
    · exact Char.ext (UInt32.toNat_inj.mp zero)
    · exact (ofNat_ne_zero positive (by omega) (List.mem_singleton.mp h)).elim
  · -- Every byte of a longer encoding has its top bit set.
    exfalso
    split at h
    · simp only [List.mem_cons, List.not_mem_nil, or_false] at h
      rcases h with h | h <;> exact ofNat_ne_zero (by omega) (by omega) h
    · split at h
      · simp only [List.mem_cons, List.not_mem_nil, or_false] at h
        rcases h with h | h | h <;> exact ofNat_ne_zero (by omega) (by omega) h
      · simp only [List.mem_cons, List.not_mem_nil, or_false] at h
        rcases h with h | h | h | h <;> exact ofNat_ne_zero (by omega) (by omega) h

theorem zero_not_mem_toBytes {s : String} (h : '\x00' ∉ s.toList) : 0 ∉ toBytes s := by
  rw [toBytes_eq_flatMap, List.mem_flatMap]
  rintro ⟨c, member, zero⟩
  exact h (eq_of_zero_mem_utf8EncodeChar zero ▸ member)

end MutationTesting.Text
