import CertRenewal.Proofs.Bundles
import CertRenewal.Proofs.DerForms

/-
  Private keys and their texts. The text of any byte string is one block with lines of 64
  characters. The bytes of a key are written down here once more, in the written forms of DER, which
  know nothing of the writer. Main statement: `pem_determines_key`, the bytes of a key of two
  different primes are the one form that this grammar has for its numbers, and they have no other
  reading, so that no two keys share a text.
-/

namespace CertRenewal

namespace Rsa

open Der

/-! ## Written keys -/

/-- A written private key: a sequence of the version, which is zero, and the eight numbers in
their order, each an integer in its one shortest form. -/
def IsPrivateKey (k : Numbers) (b : Bytes) : Prop :=
  ∃ parts, List.Forall₂ (fun n part => ∃ contents, IsNatural n contents ∧ IsElement 2 contents part)
    [0, k.modulus, k.publicExponent, k.privateExponent, k.prime1, k.prime2, k.exponent1,
      k.exponent2, k.coefficient] parts ∧ IsElement 48 parts.flatten b

namespace Numbers

theorem isPrivateKey_iff {k : Numbers} {b : Bytes} :
    IsPrivateKey k b ↔ b = k.encode ∧ k.toElement.Fits := by
  have tag : Tag.sequence.encode = [48] := by decide
  have contents : k.toElement =
      ⟨.sequence, (k.toList.map fun (n : Nat) => (Element.ofInt n).encode).flatten⟩ := by
    rw [toElement, Element.sequence, Element.node, encodeAll, List.flatMap_map, List.flatMap_def]
  constructor
  · rintro ⟨parts, integers, outer⟩
    have same : (k.toList.map fun (n : Nat) => (Element.ofInt n).encode) = parts := by
      rw [← List.forall₂_eq_eq_eq, List.forall₂_map_left_iff]
      exact integers.imp fun n part h => (isInteger_iff.1 h).1.symm
    rw [← same] at outer
    rw [encode, contents]
    exact (isElement_iff tag).1 outer
  · rintro ⟨rfl, fits⟩
    refine ⟨k.toList.map fun (n : Nat) => (Element.ofInt n).encode, ?_, ?_⟩
    · rw [List.forall₂_map_right_iff]
      refine List.forall₂_same.2 fun n hn => isInteger_iff.2 ⟨rfl, ?_⟩
      exact Element.Fits.of_mem fits (List.mem_map_of_mem hn)
    · rw [contents] at fits
      rw [encode, contents]
      exact (isElement_iff tag).2 ⟨rfl, fits⟩

/-- A byte string reads as the numbers that it is the written form of, and no other byte string
reads at all. -/
theorem decode?_eq_some_iff {k : Numbers} {b : Bytes} : decode? b = some k ↔ IsPrivateKey k b := by
  rw [isPrivateKey_iff]
  constructor
  · intro h
    have strict : Strict Element.nat? (fun (n : Nat) => Element.ofInt n) fun _ => true :=
      fun _ _ read => ⟨Element.eq_ofInt_of_nat? read, rfl⟩
    obtain ⟨e, one, inside⟩ := Option.bind_eq_some_iff.1 h
    obtain ⟨es, children, integers⟩ := Option.bind_eq_some_iff.1 inside
    obtain ⟨numbers, read, nine⟩ := Option.bind_eq_some_iff.1 integers
    obtain ⟨rfl, -⟩ := strict.mapM read
    obtain ⟨rfl, -⟩ := Element.eq_node_of_children? children
    split at nine
    · obtain rfl := Option.some.inj nine
      exact ⟨eq_encode_of_readOne? one, fits_of_readOne? one⟩
    · cases nine
  · rintro ⟨rfl, fits⟩
    exact k.decode?_encode_of_fits fits

end Numbers

theorem keyPem_injective {a b : Bytes} (h : keyPem a = keyPem b) : a = b := by
  have label : Pem.IsLabel "PRIVATE KEY" := by decide
  have left : Pem.read? (keyPem a) = some [keyBlock a] := Pem.read?_write (keyBlock a) label
  have right : Pem.read? (keyPem b) = some [keyBlock b] := Pem.read?_write (keyBlock b) label
  rw [h, right, Option.some.injEq, List.cons.injEq] at left
  exact (congrArg Pem.Block.content left.1).symm

namespace PrivateKey

/-- The text of a byte string is one block with lines of 64 characters that spell the bytes. For a
key of two different primes these bytes are the written form of its numbers, the only one there
is, and they read as nothing else; so another key has another text. The bound is that of DER, which
has no length of more bytes. -/
theorem pem_determines_key :
    (∀ der, Pem.IsTextOf ⟨"PRIVATE KEY", der⟩ (keyPem der)) ∧
    (∀ a b, keyPem a = keyPem b → a = b) ∧
    ∀ k : PrivateKey, k.p.Prime → k.q.Prime → k.p ≠ k.q → k.der.length < lengthLimit →
      Lifecycle.IsNumbersOf k k.numbers ∧
      (∀ numbers b, IsPrivateKey numbers b → (numbers = k.numbers ↔ b = k.der)) ∧
      IsPrivateKey k.numbers k.der ∧ Numbers.decode? k.der = some k.numbers ∧
      ∀ other : PrivateKey, other.pem = k.pem → other = k := by
  refine ⟨fun der => Pem.isTextOf_write ⟨"PRIVATE KEY", der⟩, fun _ _ => keyPem_injective, ?_⟩
  intro k prime_p prime_q ne limit
  have coprime : Nat.Coprime k.p k.q := (Nat.coprime_primes prime_p prime_q).2 ne
  have decoded : Numbers.decode? k.der = some k.numbers := k.numbers.decode?_encode limit
  refine ⟨Lifecycle.isNumbersOf_of_coprime coprime prime_p.pos, ?_,
    Numbers.decode?_eq_some_iff.1 decoded, decoded, ?_⟩
  · intro numbers b written
    constructor
    · rintro rfl
      exact (Numbers.isPrivateKey_iff.1 written).1
    · rintro rfl
      have read := Numbers.decode?_eq_some_iff.2 written
      exact Option.some.inj (read.symm.trans decoded)
  · intro other same
    have der : other.der = k.der := keyPem_injective same
    have small : other.der.length < lengthLimit := by rw [der]; exact limit
    have read : Numbers.decode? other.der = some other.numbers := other.numbers.decode?_encode small
    rw [der, decoded, Option.some.injEq] at read
    calc other = ⟨other.numbers.prime1, other.numbers.prime2, other.numbers.privateExponent,
          other.numbers.publicExponent⟩ := rfl
      _ = k := by rw [← read]; rfl

/-- A key of small primes: one of its numbers needs a sign byte, and one is zero. -/
def smallSample : PrivateKey := ⟨251, 2, 2753, 17⟩

/-- The same primes and private exponent with another public exponent have another text. -/
theorem pem_determines_key_smallSample :
    smallSample.der = [48, 30, 2, 1, 0, 2, 2, 1, 246, 2, 1, 17, 2, 2, 10, 193, 2, 2, 0, 251,
      2, 1, 2, 2, 1, 3, 2, 1, 0, 2, 1, 126] ∧
    IsPrivateKey ⟨502, 17, 2753, 251, 2, 3, 0, 126⟩ smallSample.der ∧
    Pem.IsTextOf ⟨"PRIVATE KEY", smallSample.der⟩ smallSample.pem ∧
    (⟨251, 2, 2753, 3⟩ : PrivateKey).pem ≠ smallSample.pem := by
  obtain ⟨text, -, keys⟩ := pem_determines_key
  have prime : Nat.Prime 251 := by decide +kernel
  obtain ⟨-, -, written, -, others⟩ :=
    keys smallSample prime Nat.prime_two (by decide) (by decide +kernel)
  have numbers : smallSample.numbers = ⟨502, 17, 2753, 251, 2, 3, 0, 126⟩ := by decide +kernel
  rw [numbers] at written
  refine ⟨by decide +kernel, written, text _, fun same => ?_⟩
  exact absurd (others _ same) (by decide)

end PrivateKey

end Rsa

end CertRenewal
