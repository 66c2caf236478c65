import CertRenewal.Rsa.Signature
import CertRenewal.Proofs.Der
import Mathlib.Data.Int.ModEq
import Mathlib.Data.Nat.ChineseRemainder
import Mathlib.FieldTheory.Finite.Basic

/-
  RSA. Raising to the private exponent and then to the public one gives every number below the
  modulus back, those that share a factor with it included: modulo each prime this is Fermat's
  theorem, and the two primes have no other common factor. Main statement: `sign?_spec`, a
  signature is as long as the modulus, and undoing it gives the padded digest of the message,
  which is spelled out byte by byte in `encoding`.
-/

namespace CertRenewal

/-! ## Numbers and their bytes -/

namespace Bytes

theorem toNat_cons (x : UInt8) (b : Bytes) :
    toNat (x :: b) = x.toNat * 256 ^ b.length + toNat b := by
  induction b using List.reverseRecOn generalizing x with
  | nil => simp [toNat]
  | append_singleton b y ih =>
    rw [← List.cons_append, toNat_append_singleton, toNat_append_singleton, ih,
      List.length_append, List.length_singleton, Nat.pow_succ]
    ring

/-- A byte string of fixed width keeps the value modulo `256 ^ width`. -/
theorem toNat_ofNatWidth (width n : Nat) : toNat (ofNatWidth width n) = n % 256 ^ width := by
  induction width generalizing n with
  | zero => simp [ofNatWidth, Nat.mod_one]
  | succ width ih =>
    have byte : (UInt8.ofNat (n % 256)).toNat = n % 256 := by simp
    rw [ofNatWidth, toNat_append_singleton, ih, byte, Nat.pow_succ,
      Nat.mul_comm (256 ^ width) 256, Nat.mod_mul]
    omega

theorem lt_pow_length_ofNat (n : Nat) : n < 256 ^ (ofNat n).length := by
  have bound := toNat_lt (ofNat n)
  rwa [toNat_ofNat] at bound

/-- A number has no more bytes than it needs. -/
theorem pow_length_ofNat_le {n : Nat} (h : n ≠ 0) : 256 ^ ((ofNat n).length - 1) ≤ n := by
  by_contra less
  have short := length_ofNat_le (Nat.lt_of_not_le less)
  have long := length_ofNat_pos h
  omega

end Bytes

namespace Rsa

/-! ## Powers -/

/-- Repeated squaring gives the power. -/
theorem powMod_eq (b e m : Nat) : powMod b e m = b ^ e % m := by
  induction e using Nat.strongRecOn generalizing b with
  | ind e ih =>
    unfold powMod
    split
    · rename_i h
      simp [h]
    · rename_i h
      have hsq : ∀ k, (b * b) ^ k = b ^ (2 * k) := fun k => by
        rw [Nat.pow_mul, Nat.pow_two]
      simp only [ih (e / 2) (by omega), ← Nat.pow_mod, hsq]
      split
      · rename_i hodd
        rw [Nat.mul_mod_mod, ← Nat.pow_succ', show (2 * (e / 2)).succ = e by omega]
      · rw [show 2 * (e / 2) = e by omega]

/-- Fermat's theorem, for every exponent that is 1 modulo the prime less one. -/
theorem pow_modEq_self {p a : Nat} (hp : p.Prime) (h : a ≡ 1 [MOD p - 1]) (ha : 1 ≤ a)
    (m : Nat) : m ^ a ≡ m [MOD p] := by
  obtain ⟨k, hk⟩ := (Nat.modEq_iff_dvd' ha).1 h.symm
  have split : a = (p - 1) * k + 1 := by omega
  by_cases divides : p ∣ m
  · have zero : m ≡ 0 [MOD p] := Nat.modEq_zero_iff_dvd.2 divides
    have power : m ^ a ≡ 0 [MOD p] := Nat.modEq_zero_iff_dvd.2 (dvd_pow divides (by omega))
    exact power.trans zero.symm
  · have coprime : Nat.Coprime m p := (Nat.Prime.coprime_iff_not_dvd hp).2 divides |>.symm
    have fermat : m ^ (p - 1) ≡ 1 [MOD p] := by
      rw [← Nat.totient_prime hp]
      exact Nat.ModEq.pow_totient coprime
    calc m ^ a = (m ^ (p - 1)) ^ k * m := by rw [split, pow_succ, pow_mul]
      _ ≡ 1 ^ k * m [MOD p] := (fermat.pow k).mul_right m
      _ = m := by rw [one_pow, one_mul]

namespace PrivateKey

/-- A key that works: two different primes, and exponents that undo each other modulo each of
them. -/
structure IsValid (k : PrivateKey) : Prop where
  prime_p : k.p.Prime
  prime_q : k.q.Prime
  ne : k.p ≠ k.q
  modEq_p : k.e * k.d ≡ 1 [MOD k.p - 1]
  modEq_q : k.e * k.d ≡ 1 [MOD k.q - 1]

variable {k : PrivateKey}

theorem IsValid.coprime (h : k.IsValid) : Nat.Coprime k.p k.q :=
  (Nat.coprime_primes h.prime_p h.prime_q).2 h.ne

theorem IsValid.modulus_ne_zero (h : k.IsValid) : k.modulus ≠ 0 :=
  Nat.mul_ne_zero h.prime_p.ne_zero h.prime_q.ne_zero

/-- The exponents are not zero: one of two different primes is odd. -/
theorem IsValid.exponents_pos (h : k.IsValid) : 1 ≤ k.e * k.d := by
  have zero_of : ∀ {m : Nat}, 3 ≤ m → k.e * k.d ≡ 1 [MOD m - 1] → 1 ≤ k.e * k.d := by
    intro m hm one
    by_contra none
    have product : k.e * k.d = 0 := by omega
    rw [product, Nat.ModEq, Nat.zero_mod, Nat.mod_eq_of_lt (by omega)] at one
    cases one
  have p_ge := h.prime_p.two_le
  have q_ge := h.prime_q.two_le
  have ne := h.ne
  by_cases large : 3 ≤ k.p
  · exact zero_of large h.modEq_p
  · exact zero_of (by omega) h.modEq_q

/-- The public exponent undoes the private one, for every number below the modulus. -/
theorem IsValid.pow_pow_mod (h : k.IsValid) {m : Nat} (hm : m < k.modulus) :
    (m ^ k.d % k.modulus) ^ k.e % k.modulus = m := by
  have mod_p : m ^ (k.e * k.d) ≡ m [MOD k.p] :=
    pow_modEq_self h.prime_p h.modEq_p h.exponents_pos m
  have mod_q : m ^ (k.e * k.d) ≡ m [MOD k.q] :=
    pow_modEq_self h.prime_q h.modEq_q h.exponents_pos m
  have both : m ^ (k.e * k.d) ≡ m [MOD k.modulus] :=
    (Nat.modEq_and_modEq_iff_modEq_mul h.coprime).1 ⟨mod_p, mod_q⟩
  calc (m ^ k.d % k.modulus) ^ k.e % k.modulus
      = m ^ (k.e * k.d) % k.modulus := by
        rw [← Nat.pow_mod, ← pow_mul, Nat.mul_comm k.d k.e]
    _ = m % k.modulus := both
    _ = m := Nat.mod_eq_of_lt hm

end PrivateKey

/-! ## Inverses -/

/-- Euclid's algorithm keeps its factors right: each remainder is a multiple of the number, up to
the modulus. -/
theorem euclid_modEq (a m : Int) (r₀ r₁ : Nat) (s₀ s₁ : Int) (h₀ : s₀ * a ≡ r₀ [ZMOD m])
    (h₁ : s₁ * a ≡ r₁ [ZMOD m]) :
    euclid r₀ r₁ s₀ s₁ * a ≡ (Nat.gcd r₀ r₁ : Int) [ZMOD m] := by
  induction r₁ using Nat.strongRecOn generalizing r₀ s₀ s₁ with
  | ind r₁ ih =>
    rw [euclid]
    by_cases zero : r₁ = 0
    · rw [dif_pos zero, zero, Nat.gcd_zero_right]
      exact h₀
    · rw [dif_neg zero, Nat.gcd_comm, Nat.gcd_rec r₁ r₀, Nat.gcd_comm]
      refine ih (r₀ % r₁) (Nat.mod_lt _ (Nat.pos_of_ne_zero zero)) r₁ s₁ _ h₁ ?_
      have rest : (r₀ % r₁ : Nat) = (r₀ : Int) - (r₀ / r₁ : Nat) * r₁ := by
        have division : (r₁ : Int) * (r₀ / r₁ : Nat) + (r₀ % r₁ : Nat) = r₀ := by
          exact_mod_cast Nat.div_add_mod r₀ r₁
        linarith
      calc (s₀ - (r₀ / r₁ : Nat) * s₁) * a = s₀ * a - (r₀ / r₁ : Nat) * (s₁ * a) := by ring
        _ ≡ r₀ - (r₀ / r₁ : Nat) * r₁ [ZMOD m] := h₀.sub (h₁.mul_left _)
        _ = (r₀ % r₁ : Nat) := rest.symm

/-- A number that has no factor in common with the modulus has an inverse, and it is found. -/
theorem inverseMod_mul_modEq {a m : Nat} (h : Nat.Coprime a m) (hm : 0 < m) :
    inverseMod a m * a ≡ 1 [MOD m] := by
  have factor : euclid a m 1 0 * a ≡ (Nat.gcd a m : Int) [ZMOD m] := by
    refine euclid_modEq a m a m 1 0 ?_ ?_
    · rw [one_mul]
    · rw [zero_mul]
      exact (Int.emod_self (a := m)).trans (Int.zero_emod _).symm |>.symm
  have nonneg : 0 ≤ euclid a m 1 0 % m := Int.emod_nonneg _ (by omega)
  have value : ((inverseMod a m : Nat) : Int) = euclid a m 1 0 % m := by
    rw [inverseMod, Int.toNat_of_nonneg nonneg]
  rw [← Int.natCast_modEq_iff]
  push_cast
  rw [value]
  have coprime : Nat.gcd a m = 1 := h
  rw [coprime] at factor
  exact ((Int.mod_modEq _ _).mul_right _).trans factor

/-- Two primes and a public exponent without a factor in common with what they leave make a key,
with the inverse of the exponent as the private one. -/
theorem PrivateKey.isValid_of_coprime {p q e : Nat} (hp : p.Prime) (hq : q.Prime) (ne : p ≠ q)
    (coprime : Nat.Coprime e ((p - 1) * (q - 1))) :
    IsValid ⟨p, q, inverseMod e ((p - 1) * (q - 1)), e⟩ := by
  have pos : 0 < (p - 1) * (q - 1) :=
    Nat.mul_pos (Nat.sub_pos_of_lt hp.one_lt) (Nat.sub_pos_of_lt hq.one_lt)
  have inverse := inverseMod_mul_modEq coprime pos
  rw [Nat.mul_comm (inverseMod e _) e] at inverse
  exact ⟨hp, hq, ne, inverse.of_mul_right _, inverse.of_mul_left _⟩

theorem inverseMod_lt (a : Nat) {m : Nat} (hm : 0 < m) : inverseMod a m < m := by
  have bound : euclid a m 1 0 % m < m := Int.emod_lt_of_pos _ (by omega)
  have nonneg : 0 ≤ euclid a m 1 0 % m := Int.emod_nonneg _ (by omega)
  unfold inverseMod
  omega

/-! ## Signatures -/

/-- What names and frames a SHA-256 digest of 32 bytes. -/
def digestPrefix : Bytes :=
  [0x30, 0x31, 0x30, 0x0D, 0x06, 0x09, 0x60, 0x86, 0x48, 0x01, 0x65, 0x03, 0x04, 0x02, 0x01,
    0x05, 0x00, 0x04, 0x20]

/-- The digest of a message, named, framed and padded to a width of at least 62 bytes. -/
def encoding (width : Nat) (message : Bytes) : Bytes :=
  [0x00, 0x01] ++ List.replicate (width - 54) 0xFF ++ [0x00] ++ digestPrefix ++
    Sha256.digest message

theorem digestInfo_eq (message : Bytes) :
    digestInfo message = digestPrefix ++ Sha256.digest message := by
  have size := Sha256.length_digest message
  have algorithm : (Certificate.Algorithm.mk Certificate.Algorithm.sha256
      (some .null)).toElement.encode = [0x30, 0x0D, 0x06, 0x09, 0x60, 0x86, 0x48, 0x01, 0x65,
        0x03, 0x04, 0x02, 0x01, 0x05, 0x00] := by decide +kernel
  have digest : (Der.Element.ofBytes (Sha256.digest message)).encode =
      0x04 :: 0x20 :: Sha256.digest message := by
    unfold Der.Element.encode Der.Element.ofBytes
    dsimp only
    rw [size]
    rfl
  have contents : Der.encodeAll [(Certificate.Algorithm.mk Certificate.Algorithm.sha256
      (some .null)).toElement, .ofBytes (Sha256.digest message)] =
        digestPrefix.drop 2 ++ Sha256.digest message := by
    rw [Der.encodeAll_cons, Der.encodeAll_cons, algorithm, digest]
    simp [Der.encodeAll, digestPrefix]
  unfold digestInfo Der.Element.sequence Der.Element.node Der.Element.encode
  dsimp only
  rw [contents, List.length_append, size]
  rfl

theorem padded?_eq (width : Nat) (message : Bytes) :
    padded? width message = if 62 ≤ width then some (encoding width message) else none := by
  have size : (digestInfo message).length = 51 := by
    rw [digestInfo_eq, List.length_append, Sha256.length_digest]
    rfl
  unfold padded?
  dsimp only
  rw [size, digestInfo_eq]
  by_cases room : 62 ≤ width
  · rw [if_pos room, if_pos (by omega), show width - 51 - 3 = width - 54 by omega, encoding]
    simp
  · rw [if_neg room, if_neg (by omega)]

theorem length_encoding {width : Nat} (h : 62 ≤ width) (message : Bytes) :
    (encoding width message).length = width := by
  have size := Sha256.length_digest message
  simp only [encoding, digestPrefix, List.length_append, List.length_cons, List.length_nil,
    List.length_replicate, size]
  omega

/-- What is padded to the width of a number is smaller than the number, since its first byte is
zero. -/
theorem toNat_encoding_lt {n : Nat} (h : 62 ≤ width n) (message : Bytes) :
    (encoding (width n) message).toNat < n := by
  have nonzero : n ≠ 0 := by
    rintro rfl
    simp [width] at h
  have size := length_encoding h message
  obtain ⟨rest, first⟩ : ∃ rest, encoding (width n) message = 0x00 :: rest := ⟨_, rfl⟩
  rw [first, List.length_cons] at size
  rw [first, Bytes.toNat_cons]
  calc (0 : UInt8).toNat * 256 ^ rest.length + Bytes.toNat rest
      = Bytes.toNat rest := by simp
    _ < 256 ^ rest.length := Bytes.toNat_lt rest
    _ = 256 ^ (width n - 1) := by rw [← size, Nat.add_sub_cancel]
    _ ≤ n := Bytes.pow_length_ofNat_le nonzero

/-- A signature is as long as the modulus, and the public exponent leads back to the padded
digest. -/
theorem PrivateKey.sign?_spec {k : PrivateKey} (valid : k.IsValid) {message signature : Bytes}
    (h : k.sign? message = some signature) :
    signature.length = width k.modulus ∧
      signature.toNat ^ k.e % k.modulus = (encoding (width k.modulus) message).toNat := by
  simp only [sign?, padded?_eq, Option.bind_eq_bind, Option.bind_eq_some_iff] at h
  obtain ⟨padded, hp, h⟩ := h
  split at hp
  · rename_i room
    cases hp
    cases h
    have below := toNat_encoding_lt room message
    have reduced : powMod (encoding (width k.modulus) message).toNat k.d k.modulus <
        256 ^ width k.modulus := by
      rw [powMod_eq]
      exact Nat.lt_trans (Nat.mod_lt _ (Nat.pos_of_ne_zero valid.modulus_ne_zero))
        (Bytes.lt_pow_length_ofNat k.modulus)
    refine ⟨Bytes.length_ofNatWidth _ _, ?_⟩
    rw [Bytes.toNat_ofNatWidth, Nat.mod_eq_of_lt reduced, powMod_eq]
    exact valid.pow_pow_mod below
  · cases hp

end Rsa

end CertRenewal
