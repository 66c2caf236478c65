import CertRenewal.Certificate.Algorithm
import CertRenewal.Pem.Block
import CertRenewal.Rsa.Modular

/-
  RSA keys and their written forms. A private key is given by its two primes and its exponents;
  the other numbers of its written form follow from these. The block a private key is kept in is
  labelled for another format than the one inside, as the consumers of the block expect.
-/

namespace CertRenewal.Rsa

open Der

/-- A public key. -/
structure PublicKey where
  modulus : Nat
  exponent : Nat
deriving DecidableEq, Repr

/-- A private key: primes in order, private and public exponent. -/
structure PrivateKey where
  p : Nat
  q : Nat
  d : Nat
  e : Nat
deriving DecidableEq, Repr

namespace PublicKey

/-- The two numbers of a public key as an element. -/
def toElement (k : PublicKey) : Element := .sequence [.ofInt k.modulus, .ofInt k.exponent]

/-- The public key that an element is. -/
def ofElement? (e : Element) : Option PublicKey := do
  match ← e.children? .sequence with
  | [modulus, exponent] =>
    let modulus ← modulus.nat?
    let exponent ← exponent.nat?
    some ⟨modulus, exponent⟩
  | _ => none

/-- A public key as certificates and requests carry it. -/
def toInfo (k : PublicKey) : Certificate.PublicKey :=
  ⟨⟨Certificate.Algorithm.rsaEncryption, some .null⟩, .ofBytes k.toElement.encode⟩

/-- The RSA key that a certificate or a request carries. -/
def ofInfo? (i : Certificate.PublicKey) : Option PublicKey := do
  let e ← readOne? i.bits.bytes
  if i.algorithm.oid = Certificate.Algorithm.rsaEncryption ∧ i.bits.unused = 0 then ofElement? e
  else none

end PublicKey

/-! ## Private keys -/

/-- The numbers of a written private key. -/
structure Numbers where
  modulus : Nat
  publicExponent : Nat
  privateExponent : Nat
  prime1 : Nat
  prime2 : Nat
  exponent1 : Nat
  exponent2 : Nat
  coefficient : Nat
deriving DecidableEq, Repr

namespace Numbers

/-- The numbers as integers, in order, after a version of zero. -/
def toList (k : Numbers) : List Nat :=
  [0, k.modulus, k.publicExponent, k.privateExponent, k.prime1, k.prime2, k.exponent1, k.exponent2,
    k.coefficient]

/-- A written private key as an element. -/
def toElement (k : Numbers) : Element :=
  .sequence (k.toList.map fun (n : Nat) => Element.ofInt (n : Int))

/-- The bytes of a written private key. -/
def encode (k : Numbers) : Bytes := k.toElement.encode

/-- The numbers of the private key that a byte string is. -/
def decode? (b : Bytes) : Option Numbers := do
  let e ← readOne? b
  let es ← e.children? .sequence
  match ← es.mapM Element.nat? with
  | [0, n, e, d, p, q, dp, dq, qi] => some ⟨n, e, d, p, q, dp, dq, qi⟩
  | _ => none

end Numbers

namespace PrivateKey

/-- The product of the primes. -/
def modulus (k : PrivateKey) : Nat := k.p * k.q

/-- The public half. -/
def publicKey (k : PrivateKey) : PublicKey := ⟨k.modulus, k.e⟩

/-- All numbers of the written form. -/
def numbers (k : PrivateKey) : Numbers where
  modulus := k.modulus
  publicExponent := k.e
  privateExponent := k.d
  prime1 := k.p
  prime2 := k.q
  exponent1 := k.d % (k.p - 1)
  exponent2 := k.d % (k.q - 1)
  coefficient := inverseMod k.q k.p

/-- The bytes of the written form. -/
def der (k : PrivateKey) : Bytes := k.numbers.encode

end PrivateKey

/-- The block that the bytes of a private key are kept in. -/
def keyBlock (der : Bytes) : Pem.Block := ⟨"PRIVATE KEY", der⟩

/-- The PEM text of the bytes of a private key. -/
def keyPem (der : Bytes) : Bytes := Pem.write (keyBlock der)

namespace PrivateKey

/-- The PEM text of a private key. -/
def pem (k : PrivateKey) : Bytes := keyPem k.der

end PrivateKey

end CertRenewal.Rsa
