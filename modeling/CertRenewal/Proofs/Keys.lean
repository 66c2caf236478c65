import CertRenewal.Rsa.Key
import CertRenewal.Proofs.Der
import CertRenewal.Proofs.Pem

/-
  Reading undoes writing, for keys: a public key in the form that requests carry, and a private
  key down to the PEM text that it is kept in.
-/

namespace CertRenewal.Rsa

open Der

/-! ## Public keys -/

namespace PublicKey

/-- The two numbers of a key are read back. -/
theorem ofElement?_toElement (k : PublicKey) (fits : k.toElement.Fits) :
    ofElement? k.toElement = some k := by
  have proper : ∀ e ∈ [Element.ofInt k.modulus, Element.ofInt k.exponent], e.isProper = true :=
    List.all_eq_true.1 rfl
  have read := Element.children?_node .sequence _ proper fits
  unfold ofElement? toElement Element.sequence
  rw [read]
  simp only [Element.nat?_ofInt, Option.bind_eq_bind, Option.bind_some]

/-- A key is read back from the form that requests carry. -/
theorem ofInfo?_toInfo (k : PublicKey) (fits : k.toElement.Fits) :
    ofInfo? k.toInfo = some k := by
  have read : readOne? k.toInfo.bits.bytes = some k.toElement :=
    readOne?_encode k.toElement rfl fits
  unfold ofInfo?
  rw [read]
  simp only [Option.bind_eq_bind, Option.bind_some]
  rw [if_pos ⟨rfl, rfl⟩]
  exact ofElement?_toElement k fits

end PublicKey

/-! ## Private keys -/

/-- The numbers of a private key are read back from its bytes. -/
theorem Numbers.decode?_encode_of_fits (k : Numbers) (fits : k.toElement.Fits) :
    decode? k.encode = some k := by
  have proper : ∀ e ∈ k.toList.map fun (n : Nat) => Element.ofInt (n : Int),
      e.isProper = true :=
    List.forall_mem_map.2 fun _ _ => rfl
  have inner := Element.children?_node .sequence _ proper fits
  have numbers : (k.toList.map fun (n : Nat) => Element.ofInt (n : Int)).mapM Element.nat? =
      some k.toList :=
    mapM_map_eq_some fun n _ => Element.nat?_ofInt n
  unfold decode? encode
  rw [readOne?_encode k.toElement rfl fits]
  simp only [Option.bind_eq_bind, Option.bind_some]
  rw [show k.toElement = .node .sequence (k.toList.map fun (n : Nat) => Element.ofInt (n : Int))
    from rfl, inner, Option.bind_some, numbers]
  rfl

theorem Numbers.decode?_encode (k : Numbers) (fits : k.encode.length < lengthLimit) :
    decode? k.encode = some k :=
  k.decode?_encode_of_fits (Nat.lt_of_le_of_lt k.toElement.length_contents_le fits)

namespace PrivateKey

theorem read?_pem (k : PrivateKey) : Pem.read? k.pem = some [⟨"PRIVATE KEY", k.der⟩] :=
  Pem.read?_write ⟨"PRIVATE KEY", k.der⟩ (by show Pem.IsLabel "PRIVATE KEY"; decide)

theorem length_der_le (k : PrivateKey) : k.der.length ≤ k.pem.length :=
  Pem.length_le_length_write ⟨"PRIVATE KEY", k.der⟩

theorem length_pem_le (k : PrivateKey) : k.pem.length ≤ 16 * k.der.length + 232 := by
  have text := Pem.length_write_le ⟨"PRIVATE KEY", k.der⟩
  have size : "PRIVATE KEY".length = 11 := by decide
  rw [size] at text
  exact text

/-- Two Mersenne primes. -/
def sampleP : Nat := 2 ^ 521 - 1
def sampleQ : Nat := 2 ^ 607 - 1

/-- A key of two Mersenne primes, with the usual public exponent. -/
def sample : PrivateKey :=
  ⟨sampleP, sampleQ, inverseMod 65537 ((sampleP - 1) * (sampleQ - 1)), 65537⟩

end PrivateKey

end CertRenewal.Rsa
