import CertRenewal.Rsa.Key
import CertRenewal.Sha256

/-
  RSA signatures over SHA-256 digests with the deterministic padding of PKCS #1: the digest,
  named and framed, after a run of ones that fills the width of the modulus. Signing raises the
  padded number to the private exponent; verifying raises the signature to the public one and
  compares.
-/

namespace CertRenewal.Rsa

open Der

/-- The number of bytes of a modulus. -/
def width (modulus : Nat) : Nat := (Bytes.ofNat modulus).length

/-- The digest of a message with the name of the digest. -/
def digestInfo (message : Bytes) : Bytes :=
  (Element.sequence
    [(Certificate.Algorithm.mk Certificate.Algorithm.sha256 (some .null)).toElement,
      .ofBytes (Sha256.digest message)]).encode

/-- The digest of a message padded to a width, if there is room for at least eight bytes of
padding. -/
def padded? (width : Nat) (message : Bytes) : Option Bytes :=
  let info := digestInfo message
  if info.length + 11 ≤ width then
    some (0 :: 1 :: List.replicate (width - info.length - 3) 255 ++ 0 :: info)
  else none

namespace PrivateKey

/-- The signature of a message, as long as the modulus; none when the key is too short. -/
def sign? (k : PrivateKey) (message : Bytes) : Option Bytes := do
  let w := width k.modulus
  let padded ← padded? w message
  some (Bytes.ofNatWidth w (powMod padded.toNat k.d k.modulus))

end PrivateKey

namespace PublicKey

/-- Whether a byte string is the signature of a message. -/
def verifies (k : PublicKey) (message signature : Bytes) : Bool :=
  let w := width k.modulus
  signature.length == w &&
    padded? w message == some (Bytes.ofNatWidth w (powMod signature.toNat k.exponent k.modulus))

end PublicKey

end CertRenewal.Rsa
