import CertRenewal.Text.Utf8

/-
  UTF-8 read after it was written. `decode?_encode` is the round trip for all texts; with the
  lemma of the library that reading accepts only what writing produces, a byte string reads as a
  text exactly when it is that text written. ASCII texts are one byte for each character, so that
  a marker of ASCII characters can be looked for among the bytes.
-/

namespace CertRenewal.Utf8

@[simp] theorem encode_nil : encode [] = [] := rfl

theorem encode_cons (c : Char) (s : List Char) :
    encode (c :: s) = String.utf8EncodeChar c ++ encode s := rfl

@[simp] theorem encode_append (s t : List Char) : encode (s ++ t) = encode s ++ encode t :=
  List.flatMap_append

/-! ## The round trip -/

/-- A sequence is read back when its lead byte tells its size and its bits are the character. -/
theorem decodeOne?_of_sequence {c : Char} {lead : UInt8} {tail : Bytes} (rest : Bytes)
    (written : String.utf8EncodeChar c = lead :: tail)
    (size : sequenceLength lead = (lead :: tail).length)
    (point : codePoint (lead :: tail) = c.val.toNat) :
    decodeOne? (String.utf8EncodeChar c ++ rest) = some (c, rest) := by
  have value : Char.ofNat c.val.toNat = c := Char.ofNat_toNat c
  have taken : (lead :: tail ++ rest).take (sequenceLength lead) = lead :: tail := by
    rw [size, List.take_left]
  have left : (lead :: tail ++ rest).drop (sequenceLength lead) = rest := by
    rw [size, List.drop_left]
  rw [List.cons_append] at taken left
  rw [written, List.cons_append, decodeOne?]
  simp only [taken, left]
  rw [point, value, if_pos written]

/-- The first character of a byte string is the one that was written there. -/
theorem decodeOne?_append (c : Char) (rest : Bytes) :
    decodeOne? (String.utf8EncodeChar c ++ rest) = some (c, rest) := by
  have bound : c.val.toNat < 1114112 := by
    rcases c.valid with h | h
    · change c.val.toNat < 55296 at h; omega
    · exact h.2
  -- Writing and reading both go by the size of the sequence, so the cases are its four sizes.
  by_cases h₁ : c.val.toNat ≤ 0x7f
  · refine decodeOne?_of_sequence rest (by rw [String.utf8EncodeChar, if_pos h₁]) ?_ ?_
    · simp only [sequenceLength, UInt8.lt_iff_toNat_lt, UInt8.toNat_ofNat', UInt8.reduceToNat]
      rw [if_pos (by omega)]
      rfl
    · simp only [codePoint, UInt8.toNat_ofNat']
      omega
  by_cases h₂ : c.val.toNat ≤ 0x7ff
  · refine decodeOne?_of_sequence rest (by rw [String.utf8EncodeChar, if_neg h₁, if_pos h₂]) ?_ ?_
    · simp only [sequenceLength, UInt8.lt_iff_toNat_lt, UInt8.toNat_ofNat', UInt8.reduceToNat]
      rw [if_neg (by omega), if_pos (by omega)]
      rfl
    · simp only [codePoint, UInt8.toNat_ofNat']
      omega
  by_cases h₃ : c.val.toNat ≤ 0xffff
  · refine decodeOne?_of_sequence rest
      (by rw [String.utf8EncodeChar, if_neg h₁, if_neg h₂, if_pos h₃]) ?_ ?_
    · simp only [sequenceLength, UInt8.lt_iff_toNat_lt, UInt8.toNat_ofNat', UInt8.reduceToNat]
      rw [if_neg (by omega), if_neg (by omega), if_pos (by omega)]
      rfl
    · simp only [codePoint, UInt8.toNat_ofNat']
      omega
  · refine decodeOne?_of_sequence rest
      (by rw [String.utf8EncodeChar, if_neg h₁, if_neg h₂, if_neg h₃]) ?_ ?_
    · simp only [sequenceLength, UInt8.lt_iff_toNat_lt, UInt8.toNat_ofNat', UInt8.reduceToNat]
      rw [if_neg (by omega), if_neg (by omega), if_neg (by omega)]
      rfl
    · simp only [codePoint, UInt8.toNat_ofNat']
      omega

/-- Reading gives back what was written. -/
theorem decode?_encode (s : List Char) : decode? (encode s) = some s := by
  induction s with
  | nil => rw [decode?.eq_def]; rfl
  | cons c s ih =>
    rw [decode?.eq_def, encode_cons, decodeOne?_append]
    simp [ih]

theorem toString?_ofString (s : String) : toString? (ofString s) = some s := by
  unfold toString? ofString
  rw [decode?_encode]
  simp

/-! ## ASCII -/

/-- A character of ASCII is the byte of its number. -/
theorem utf8EncodeChar_of_lt {c : Char} (h : c.toNat < 128) :
    String.utf8EncodeChar c = [UInt8.ofNat c.toNat] := by
  have : c.val.toNat ≤ 0x7f := Nat.le_of_lt_succ h
  rw [String.utf8EncodeChar, if_pos this]
  rfl

/-- A text of ASCII has the bytes of its characters. -/
theorem encode_of_lt {s : List Char} (hs : ∀ c ∈ s, c.toNat < 128) :
    encode s = s.map fun c => UInt8.ofNat c.toNat := by
  induction s with
  | nil => rfl
  | cons c s ih =>
    obtain ⟨first, others⟩ := List.forall_mem_cons.1 hs
    rw [encode_cons, utf8EncodeChar_of_lt first, ih others]
    rfl

/-- A byte stands in an ASCII text only where its character does. -/
theorem mem_of_mem_encode {s : List Char} (hs : ∀ c ∈ s, c.toNat < 128) {x : UInt8}
    (h : x ∈ encode s) : Char.ofNat x.toNat ∈ s := by
  rw [encode_of_lt hs, List.mem_map] at h
  obtain ⟨c, hc, rfl⟩ := h
  have bound := hs c hc
  rw [UInt8.toNat_ofNat', Nat.mod_eq_of_lt (by omega), Char.ofNat_toNat]
  exact hc

/-- The bytes of a string are counted by its size. -/
theorem length_ofString (s : String) : (ofString s).length = s.utf8ByteSize := by
  rw [String.utf8ByteSize, ← String.utf8Encode_toList, List.utf8Encode, List.size_toByteArray]
  rfl

/-- A text has at least as many bytes as characters. -/
theorem length_le_length_encode (s : List Char) : s.length ≤ (encode s).length := by
  induction s with
  | nil => simp
  | cons c s ih =>
    have : (String.utf8EncodeChar c).length ≠ 0 :=
      fun h => String.utf8EncodeChar_ne_nil (List.length_eq_zero_iff.1 h)
    rw [encode_cons, List.length_append, List.length_cons]
    omega

/-- A character has at most four bytes. -/
theorem length_encode_le (s : List Char) : (encode s).length ≤ 4 * s.length := by
  induction s with
  | nil => simp
  | cons c s ih =>
    have one : (String.utf8EncodeChar c).length ≤ 4 := by
      rw [String.length_utf8EncodeChar]
      exact c.utf8Size_le_four
    rw [encode_cons, List.length_append, List.length_cons]
    omega

end CertRenewal.Utf8
