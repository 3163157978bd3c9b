import Journal.Text.Utf8
/-!
Decoding undoes encoding. What a reader of bytes has to know about the characters it meets: one below 128
is its own byte, all others consist of bytes from 128 on.
-/
namespace Journal.Utf8

theorem firstChar?_append (c : Char) (rest : Bytes) : firstChar? (String.utf8EncodeChar c ++ rest) = some c := by
  have short : (String.utf8EncodeChar c).length ≤ 4 := by
    simpa using c.utf8Size_le_four
  have taken : (String.utf8EncodeChar c ++ rest).take 4
      = String.utf8EncodeChar c ++ rest.take (4 - (String.utf8EncodeChar c).length) := by
    rw [List.take_append, List.take_of_length_le short]
  unfold firstChar?
  rw [taken, List.toByteArray_append]
  exact ByteArray.utf8DecodeChar?_utf8EncodeChar_append

theorem decodeChars_flatMap (cs : List Char) (offset : Nat) (done : List Char) :
    decodeChars (cs.flatMap String.utf8EncodeChar) offset done = .ok (done.reverse ++ cs) := by
  induction cs generalizing offset done with
  | nil => simp [decodeChars]
  | cons c cs ih =>
    have first := firstChar?_append c (cs.flatMap String.utf8EncodeChar)
    have dropped : (String.utf8EncodeChar c ++ cs.flatMap String.utf8EncodeChar).drop c.utf8Size
        = cs.flatMap String.utf8EncodeChar := by
      rw [← String.length_utf8EncodeChar, List.drop_left]
    rw [List.flatMap_cons]
    cases encoded : String.utf8EncodeChar c ++ cs.flatMap String.utf8EncodeChar with
    | nil => simp [String.utf8EncodeChar_ne_nil] at encoded
    | cons b rest =>
      rw [encoded] at first dropped
      unfold decodeChars
      simp only [first, dropped, ih, List.reverse_cons, List.append_assoc, List.singleton_append]

theorem decode_encode (s : String) : decode (encode s) = .ok s := by
  simp [decode, encode, decodeChars_flatMap, Except.map]

theorem ascii_byte {c : Char} (ascii : c.toNat < 128) : String.utf8EncodeChar c = [UInt8.ofNat c.toNat] := by
  have small : c.val.toNat ≤ 127 := Nat.le_of_lt_succ ascii
  fun_cases String.utf8EncodeChar c <;> first | rfl | (exfalso; omega)

theorem high_bytes {c : Char} (high : 128 ≤ c.toNat) {b : UInt8} (mem : b ∈ String.utf8EncodeChar c) :
    128 ≤ b.toNat := by
  have big : ¬ c.val.toNat ≤ 127 := Nat.not_le.mpr high
  revert mem
  fun_cases String.utf8EncodeChar c
  · contradiction
  all_goals
    intro mem
    simp only [List.mem_cons, List.not_mem_nil, or_false] at mem
    rcases mem with rfl | rfl | rfl | rfl <;> simp [UInt8.toNat_ofNat'] <;> omega

end Journal.Utf8
