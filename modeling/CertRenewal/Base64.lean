import CertRenewal.Bytes

/-
  Standard base64 in its one canonical form: three bytes are four characters, a last group of
  one or two bytes is padded with equals signs, and the bits that padding leaves over are zero.
  The reader takes that form only. Main statement: reading accepts exactly what writing
  produces, `decode?_eq_some_iff`.
-/

namespace CertRenewal.Base64

/-! ## Digits -/

/-- The character of a six-bit value. -/
def digit (n : Nat) : Char :=
  if n < 26 then Char.ofNat (65 + n)
  else if n < 52 then Char.ofNat (71 + n)
  else if n < 62 then Char.ofNat (n - 4)
  else if n = 62 then '+'
  else '/'

/-- The six-bit value of a character of the alphabet. -/
def value? (c : Char) : Option Nat :=
  let n := c.toNat
  if 65 ≤ n ∧ n ≤ 90 then some (n - 65)
  else if 97 ≤ n ∧ n ≤ 122 then some (n - 71)
  else if 48 ≤ n ∧ n ≤ 57 then some (n + 4)
  else if n = 43 then some 62
  else if n = 47 then some 63
  else none

theorem value?_digit {n : Nat} (h : n < 64) : value? (digit n) = some n := by
  have key : ∀ k : Fin 64, value? (digit k) = some k.val := by decide
  exact key ⟨n, h⟩

theorem digit_ne_pad {n : Nat} (h : n < 64) : digit n ≠ '=' := by
  have key : ∀ k : Fin 64, digit k ≠ '=' := by decide
  exact key ⟨n, h⟩

theorem eq_digit_of_value? {c : Char} {n : Nat} (h : value? c = some n) : c = digit n ∧ n < 64 := by
  have hc : Char.ofNat c.toNat = c := Char.ofNat_toNat c
  unfold value? at h
  simp only at h
  split at h
  · obtain rfl := Option.some.inj h
    refine ⟨?_, by omega⟩
    rw [digit, if_pos (by omega), show 65 + (c.toNat - 65) = c.toNat by omega, hc]
  split at h
  · obtain rfl := Option.some.inj h
    refine ⟨?_, by omega⟩
    rw [digit, if_neg (by omega), if_pos (by omega),
      show 71 + (c.toNat - 71) = c.toNat by omega, hc]
  split at h
  · obtain rfl := Option.some.inj h
    refine ⟨?_, by omega⟩
    rw [digit, if_neg (by omega), if_neg (by omega), if_pos (by omega),
      show c.toNat + 4 - 4 = c.toNat by omega, hc]
  split at h
  · obtain rfl := Option.some.inj h
    rename_i hn
    refine ⟨?_, by omega⟩
    rw [← hc, hn]; rfl
  split at h
  · obtain rfl := Option.some.inj h
    rename_i hn
    refine ⟨?_, by omega⟩
    rw [← hc, hn]; rfl
  · simp at h

/-! ## Groups -/

/-- The four characters of three bytes. -/
def encode3 (a b c : UInt8) : List Char :=
  let n := a.toNat * 65536 + b.toNat * 256 + c.toNat
  [digit (n / 262144), digit (n / 4096 % 64), digit (n / 64 % 64), digit (n % 64)]

/-- The padded group of two bytes. -/
def encode2 (a b : UInt8) : List Char :=
  let n := a.toNat * 256 + b.toNat
  [digit (n / 1024), digit (n / 16 % 64), digit (n % 16 * 4), '=']

/-- The padded group of one byte. -/
def encode1 (a : UInt8) : List Char :=
  [digit (a.toNat / 4), digit (a.toNat % 4 * 16), '=', '=']

/-- The base64 text of a byte string. -/
def encode : Bytes → List Char
  | [] => []
  | [a] => encode1 a
  | [a, b] => encode2 a b
  | a :: b :: c :: rest => encode3 a b c ++ encode rest

/-- The bytes of a group without padding. -/
def decode3? (w x y z : Char) : Option Bytes := do
  let w ← value? w
  let x ← value? x
  let y ← value? y
  let z ← value? z
  let n := w * 262144 + x * 4096 + y * 64 + z
  some [UInt8.ofNat (n / 65536), UInt8.ofNat (n / 256 % 256), UInt8.ofNat (n % 256)]

/-- The bytes of a group with one pad, whose last two bits are zero. -/
def decode2? (w x y : Char) : Option Bytes := do
  let w ← value? w
  let x ← value? x
  let y ← value? y
  if y % 4 = 0 then
    let n := w * 1024 + x * 16 + y / 4
    some [UInt8.ofNat (n / 256), UInt8.ofNat (n % 256)]
  else none

/-- The byte of a group with two pads, whose last four bits are zero. -/
def decode1? (w x : Char) : Option Bytes := do
  let w ← value? w
  let x ← value? x
  if x % 16 = 0 then some [UInt8.ofNat (w * 4 + x / 16)] else none

/-- The byte string of a base64 text, or nothing when the text is not in canonical form. -/
def decode? : List Char → Option Bytes
  | [] => some []
  | w :: x :: y :: z :: rest =>
    if z = '=' ∧ rest = [] then
      if y = '=' then decode1? w x else decode2? w x y
    else do
      let head ← decode3? w x y z
      let tail ← decode? rest
      some (head ++ tail)
  | _ => none

/-! ## Reading undoes writing -/

theorem decode3?_encode3 (a b c : UInt8) :
    ∀ w x y z, encode3 a b c = [w, x, y, z] → decode3? w x y z = some [a, b, c] := by
  intro w x y z h
  have ha := a.toNat_lt; have hb := b.toNat_lt; have hc := c.toNat_lt
  simp only [encode3, List.cons.injEq, and_true] at h
  obtain ⟨rfl, rfl, rfl, rfl⟩ := h
  rw [decode3?, value?_digit (by omega), value?_digit (by omega), value?_digit (by omega),
    value?_digit (by omega)]
  simp only [Option.bind_eq_bind, Option.bind_some, Option.some.injEq, List.cons.injEq, and_true]
  refine ⟨?_, ?_, ?_⟩ <;> apply UInt8.toNat_inj.1 <;> simp only [UInt8.toNat_ofNat'] <;> omega

theorem decode_encode (b : Bytes) : decode? (encode b) = some b := by
  fun_induction encode b with
  | case1 => rfl
  | case2 a =>
    have ha := a.toNat_lt
    simp only [encode1, decode?, decode1?, and_self, if_true]
    rw [value?_digit (by omega), value?_digit (by omega)]
    simp only [Option.bind_eq_bind, Option.bind_some]
    rw [if_pos (by omega)]
    simp only [Option.some.injEq, List.cons.injEq, and_true]
    apply UInt8.toNat_inj.1; simp only [UInt8.toNat_ofNat']; omega
  | case3 a b =>
    have ha := a.toNat_lt; have hb := b.toNat_lt
    have hd : digit ((a.toNat * 256 + b.toNat) % 16 * 4) ≠ '=' := digit_ne_pad (by omega)
    simp only [encode2, decode?, decode2?, and_self, if_true, if_neg hd]
    rw [value?_digit (by omega), value?_digit (by omega), value?_digit (by omega)]
    simp only [Option.bind_eq_bind, Option.bind_some]
    rw [if_pos (by omega)]
    simp only [Option.some.injEq, List.cons.injEq, and_true]
    constructor <;> apply UInt8.toNat_inj.1 <;> simp only [UInt8.toNat_ofNat'] <;> omega
  | case4 a b c rest ih =>
    have hd : digit ((a.toNat * 65536 + b.toNat * 256 + c.toNat) % 64) ≠ '=' :=
      digit_ne_pad (by omega)
    have h3 := decode3?_encode3 a b c _ _ _ _ rfl
    simp only [encode3, List.cons_append, List.nil_append, decode?, hd, false_and, if_false]
    rw [h3, ih]
    rfl

/-! ## Writing undoes reading -/

theorem eq_encode3_of_decode3? {w x y z : Char} {head : Bytes} (h : decode3? w x y z = some head) :
    ∃ a b c, head = [a, b, c] ∧ encode3 a b c = [w, x, y, z] := by
  simp only [decode3?, Option.bind_eq_bind, Option.bind_eq_some_iff, Option.some.injEq] at h
  obtain ⟨nw, hw, nx, hx, ny, hy, nz, hz, rfl⟩ := h
  obtain ⟨rfl, hw⟩ := eq_digit_of_value? hw
  obtain ⟨rfl, hx⟩ := eq_digit_of_value? hx
  obtain ⟨rfl, hy⟩ := eq_digit_of_value? hy
  obtain ⟨rfl, hz⟩ := eq_digit_of_value? hz
  refine ⟨_, _, _, rfl, ?_⟩
  simp only [encode3, UInt8.toNat_ofNat', List.cons.injEq, and_true]
  refine ⟨?_, ?_, ?_, ?_⟩ <;> congr 1 <;> omega

/-- Reading accepts only what writing produces. -/
theorem eq_encode_of_decode? {s : List Char} {b : Bytes} (h : decode? s = some b) :
    s = encode b := by
  fun_induction decode? s generalizing b with
  | case1 => obtain rfl := Option.some.inj h; rfl
  | case2 w x z rest hpad =>
    obtain ⟨rfl, rfl⟩ := hpad
    simp only [decode1?, Option.bind_eq_bind, Option.bind_eq_some_iff] at h
    obtain ⟨nw, hw, nx, hx, h⟩ := h
    split at h <;> simp only [Option.some.injEq, reduceCtorEq] at h
    obtain ⟨rfl, hw⟩ := eq_digit_of_value? hw
    obtain ⟨rfl, hx⟩ := eq_digit_of_value? hx
    subst h
    simp only [encode, encode1, UInt8.toNat_ofNat', List.cons.injEq, and_true]
    constructor <;> congr 1 <;> omega
  | case3 w x y z rest hpad hy =>
    obtain ⟨rfl, rfl⟩ := hpad
    simp only [decode2?, Option.bind_eq_bind, Option.bind_eq_some_iff] at h
    obtain ⟨nw, hw, nx, hx, ny, hy', h⟩ := h
    split at h <;> simp only [Option.some.injEq, reduceCtorEq] at h
    obtain ⟨rfl, hw⟩ := eq_digit_of_value? hw
    obtain ⟨rfl, hx⟩ := eq_digit_of_value? hx
    obtain ⟨rfl, hy'⟩ := eq_digit_of_value? hy'
    subst h
    simp only [encode, encode2, UInt8.toNat_ofNat', List.cons.injEq, and_true]
    refine ⟨?_, ?_, ?_⟩ <;> congr 1 <;> omega
  | case4 w x y z rest hpad ih =>
    simp only [Option.bind_eq_bind, Option.bind_eq_some_iff, Option.some.injEq] at h
    obtain ⟨head, hh, tail, ht, rfl⟩ := h
    obtain ⟨a, b', c, rfl, he⟩ := eq_encode3_of_decode3? hh
    simp [encode, he, ← ih ht]
  | case5 => simp at h

/-- A text reads as a byte string exactly when it is that byte string written. -/
theorem decode?_eq_some_iff {s : List Char} {b : Bytes} : decode? s = some b ↔ s = encode b :=
  ⟨eq_encode_of_decode?, fun h => h ▸ decode_encode b⟩

end CertRenewal.Base64
