/-
  Byte strings. Everything that is framed, signed or parsed in this library is a list of
  bytes, so that readers and writers are plain list recursion. This module holds the two views
  the rest needs: a byte string as a big-endian number, and a byte string as a text in which a
  marker is looked for.
-/

namespace CertRenewal

/-- A byte string. -/
abbrev Bytes := List UInt8

/-! ## Big-endian numbers -/

namespace Bytes

/-- The value of a byte string, most significant byte first. -/
def toNat (b : Bytes) : Nat := b.foldl (fun n x => n * 256 + x.toNat) 0

/-- The shortest byte string of a given value; zero has the empty one. -/
def ofNat (n : Nat) : Bytes :=
  if n = 0 then [] else ofNat (n / 256) ++ [UInt8.ofNat (n % 256)]

/-- The byte string of exactly `width` bytes whose value is `n` modulo `256 ^ width`. -/
def ofNatWidth : Nat → Nat → Bytes
  | 0, _ => []
  | width + 1, n => ofNatWidth width (n / 256) ++ [UInt8.ofNat (n % 256)]

@[simp] theorem ofNat_zero : ofNat 0 = [] := by rw [ofNat]; simp

theorem ofNat_of_ne_zero {n : Nat} (h : n ≠ 0) :
    ofNat n = ofNat (n / 256) ++ [UInt8.ofNat (n % 256)] := by
  rw [ofNat]; simp [h]

@[simp] theorem length_ofNatWidth (width n : Nat) : (ofNatWidth width n).length = width := by
  induction width generalizing n with
  | zero => rfl
  | succ width ih => simp [ofNatWidth, ih]

@[simp] theorem toNat_nil : toNat [] = 0 := rfl

theorem toNat_append_singleton (b : Bytes) (x : UInt8) :
    toNat (b ++ [x]) = toNat b * 256 + x.toNat := by
  simp [toNat]

/-- The shortest byte string of a value has that value. -/
theorem toNat_ofNat (n : Nat) : toNat (ofNat n) = n := by
  induction n using Nat.strongRecOn with
  | ind n ih =>
    by_cases h : n = 0
    · simp [h]
    · rw [ofNat_of_ne_zero h, toNat_append_singleton, ih (n / 256) (by omega)]
      simp only [UInt8.toNat_ofNat']
      omega

/-! ## Order -/

/-- Lexicographic order on byte strings; a proper initial part comes first. -/
def le : Bytes → Bytes → Bool
  | [], _ => true
  | _ :: _, [] => false
  | x :: xs, y :: ys => x < y || (x == y && le xs ys)

/-! ## Hexadecimal text -/

/-- One hexadecimal digit, lower case. -/
def hexDigit (n : Nat) : Char :=
  if n < 10 then Char.ofNat (48 + n) else Char.ofNat (87 + n)

/-- Two lower-case hexadecimal digits for each byte. -/
def hex (b : Bytes) : String :=
  String.ofList (b.flatMap fun x => [hexDigit (x.toNat / 16), hexDigit (x.toNat % 16)])

end Bytes

/-! ## Looking for a marker -/

section Marker

variable {α : Type} [DecidableEq α]

/-- What follows `marker` in a list that begins with it. -/
def after? : List α → List α → Option (List α)
  | [], l => some l
  | _ :: _, [] => none
  | m :: marker, x :: l => if m = x then after? marker l else none

/-- The parts of a list before and after the first place where `marker` stands. -/
def cut? (marker : List α) : List α → Option (List α × List α)
  | [] => (after? marker []).map fun rest => ([], rest)
  | x :: l =>
    match after? marker (x :: l) with
    | some rest => some ([], rest)
    | none => (cut? marker l).map fun (before, rest) => (x :: before, rest)

theorem eq_append_of_after? {marker l rest : List α} (h : after? marker l = some rest) :
    l = marker ++ rest := by
  induction marker generalizing l with
  | nil => simpa [after?] using h
  | cons m marker ih =>
    cases l with
    | nil => simp [after?] at h
    | cons x l =>
      by_cases hm : m = x
      · subst hm
        simp only [after?, if_pos] at h
        simp [ih h]
      · simp [after?, hm] at h

@[simp] theorem after?_append (marker rest : List α) :
    after? marker (marker ++ rest) = some rest := by
  induction marker with
  | nil => rfl
  | cons m marker ih => simp [after?, ih]

/-- A marker is found where a list begins with it. -/
theorem cut?_append {marker : List α} (h : marker ≠ []) (rest : List α) :
    cut? marker (marker ++ rest) = some ([], rest) := by
  have after := after?_append marker rest
  cases marker with
  | nil => exact absurd rfl h
  | cons m ms =>
    rw [List.cons_append] at after ⊢
    rw [cut?, after]

/-- Cutting at a marker loses nothing: the parts and the marker make up the list. -/
theorem eq_append_of_cut? {marker l before rest : List α} (h : cut? marker l = some (before, rest)) :
    l = before ++ marker ++ rest := by
  induction l generalizing before with
  | nil =>
    simp only [cut?, Option.map_eq_some_iff, Prod.mk.injEq] at h
    obtain ⟨r, hr, rfl, rfl⟩ := h
    simpa using eq_append_of_after? hr
  | cons x l ih =>
    unfold cut? at h
    split at h
    · rename_i r hr
      simp only [Option.some.injEq, Prod.mk.injEq] at h
      obtain ⟨rfl, rfl⟩ := h
      simpa using eq_append_of_after? hr
    · simp only [Option.map_eq_some_iff, Prod.mk.injEq] at h
      obtain ⟨⟨b, r⟩, hbr, rfl, rfl⟩ := h
      simp [ih hbr]

end Marker

end CertRenewal
