import CertRenewal.Bytes

/-
  UTF-8 between texts and byte strings. The reader takes the bits out of a sequence without
  looking at them and then asks whether the character it found is written with exactly these
  bytes; so overlong forms, halves of surrogate pairs, stray continuation bytes and truncated
  sequences are all refused by one comparison.
-/

namespace CertRenewal.Utf8

/-- The bytes of a text. -/
def encode (s : List Char) : Bytes := s.flatMap String.utf8EncodeChar

/-- The bytes of a string. -/
def ofString (s : String) : Bytes := encode s.toList

/-- How many bytes a sequence has that starts with this byte. -/
def sequenceLength (lead : UInt8) : Nat :=
  if lead < 0x80 then 1 else if lead < 0xE0 then 2 else if lead < 0xF0 then 3 else 4

/-- The code point spelled by a sequence, six bits from each byte after the first. -/
def codePoint : Bytes → Nat
  | [a] => a.toNat
  | [a, b] => a.toNat % 32 * 64 + b.toNat % 64
  | [a, b, c] => a.toNat % 16 * 4096 + b.toNat % 64 * 64 + c.toNat % 64
  | [a, b, c, d] =>
    a.toNat % 8 * 262144 + b.toNat % 64 * 4096 + c.toNat % 64 * 64 + d.toNat % 64
  | _ => 0

/-- The first character of a byte string and the bytes after it. -/
def decodeOne? : Bytes → Option (Char × Bytes)
  | [] => none
  | lead :: rest =>
    let size := sequenceLength lead
    let taken := (lead :: rest).take size
    let c := Char.ofNat (codePoint taken)
    if String.utf8EncodeChar c = taken then some (c, (lead :: rest).drop size) else none

theorem one_le_sequenceLength (lead : UInt8) : 1 ≤ sequenceLength lead := by
  unfold sequenceLength; repeat' split
  all_goals omega

theorem length_lt_of_decodeOne? {b rest : Bytes} {c : Char} (h : decodeOne? b = some (c, rest)) :
    rest.length < b.length := by
  cases b with
  | nil => simp [decodeOne?] at h
  | cons lead tail =>
    have := one_le_sequenceLength lead
    simp only [decodeOne?] at h
    split at h
    · simp only [Option.some.injEq, Prod.mk.injEq] at h
      obtain ⟨_, rfl⟩ := h
      simp only [List.length_drop, List.length_cons]
      omega
    · simp at h

/-- The text of a byte string, or nothing when it is not well-formed UTF-8. -/
def decode? (b : Bytes) : Option (List Char) :=
  match _h : decodeOne? b with
  | some (c, rest) => (decode? rest).map (c :: ·)
  | none => if b = [] then some [] else none
termination_by b.length
decreasing_by exact length_lt_of_decodeOne? _h

/-- The string of a byte string, or nothing when it is not well-formed UTF-8. -/
def toString? (b : Bytes) : Option String := (decode? b).map String.ofList

theorem eq_of_decodeOne? {b rest : Bytes} {c : Char} (h : decodeOne? b = some (c, rest)) :
    b = String.utf8EncodeChar c ++ rest := by
  cases b with
  | nil => simp [decodeOne?] at h
  | cons lead tail =>
    simp only [decodeOne?] at h
    split at h
    · rename_i heq
      simp only [Option.some.injEq, Prod.mk.injEq] at h
      obtain ⟨rfl, rfl⟩ := h
      rw [heq, List.take_append_drop]
    · simp at h

/-- Reading accepts only what writing produces. -/
theorem eq_encode_of_decode? {b : Bytes} {s : List Char} (h : decode? b = some s) :
    b = encode s := by
  fun_induction decode? b generalizing s with
  | case1 b c rest hone ih =>
    obtain ⟨t, ht, rfl⟩ := Option.map_eq_some_iff.1 h
    rw [eq_of_decodeOne? hone, ih ht]
    simp [encode]
  | case2 => simp_all [encode]
  | case3 => simp at h

end CertRenewal.Utf8
