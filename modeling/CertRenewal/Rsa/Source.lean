import CertRenewal.Rsa.Key
import CertRenewal.Text.Decimal

/-
  Where keys come from. A source hands out a key of a demanded size, or fails with a cause; a
  size under the least one is refused by every source that works. Nothing here says how the key
  was made: the library takes it as given.
-/

namespace CertRenewal.Rsa

/-- The least number of bits of a key. -/
def minKeyBits : Int := 1024

/-- Why a source gives no key. -/
inductive SourceFault where
  | broken (cause : String)
  | tooSmall
deriving DecidableEq, Repr

/-- The wording of a fault. -/
def SourceFault.message : SourceFault → String
  | broken cause => cause
  | tooSmall => "key_size must be at least 1024-bits."

/-- A demand for a key that failed. -/
structure GenerationFailure where
  bits : Int
  fault : SourceFault
deriving DecidableEq, Repr

/-- The wording of a failure. -/
def GenerationFailure.message (f : GenerationFailure) : String :=
  "Failed to generate " ++ String.ofList (Decimal.intDigits f.bits) ++ "-bit RSA key: " ++
    f.fault.message

/-- A source of keys: a broken one, or one that hands out a key; the key may be missing, which
shows only when something is to be signed with it. -/
inductive KeySource where
  | broken (cause : String)
  | ready (key : Option PrivateKey)
deriving DecidableEq, Repr

/-- The key for a demanded size. -/
def KeySource.draw (source : KeySource) (bits : Int) :
    Except GenerationFailure (Option PrivateKey) :=
  match source with
  | .broken cause => .error ⟨bits, .broken cause⟩
  | .ready key => if bits < minKeyBits then .error ⟨bits, .tooSmall⟩ else .ok key

end CertRenewal.Rsa
