import CertRenewal.Identity
import CertRenewal.Json.Value
import CertRenewal.KeyUsage
import CertRenewal.Pkcs10.Basic

/-
  A signing request as it is submitted: the PEM text of a certification request, the name it is
  submitted under, what was put into it, and who is asked to sign it for which usages. Its
  manifest is the object that the certificates API takes, in which the bytes are base64.
-/

namespace CertRenewal

/-- A request ready to be submitted. -/
structure SigningRequest where
  name : String
  pem : Bytes
  commonName : String
  dnsNames : List String
  addresses : List Ip
  usages : List KeyUsage
  groups : List String
  apiVersion : String
deriving DecidableEq, Repr

namespace SigningRequest

/-- The kind of object that a request is submitted as. -/
def kind : String := "CertificateSigningRequest"

/-- The groups a request names when nothing else is said. -/
def defaultGroups : List String := ["system:masters", "system:authenticated"]

/-- The version of the certificates API that is meant when nothing else is said. -/
def defaultApiVersion : String := "certificates.k8s.io/v1beta1"

/-- The object to submit. -/
def manifest (r : SigningRequest) : Json :=
  .object
    [("apiVersion", .text r.apiVersion), ("kind", .text kind),
      ("metadata", .object [("name", .text r.name)]),
      ("spec", .object
        [("request", .text (String.ofList (Base64.encode r.pem))), ("groups", .texts r.groups),
          ("usages", .texts (r.usages.map KeyUsage.label))])]

end SigningRequest

/-! ## Failures -/

/-- Why no request can be built. -/
inductive BuildFault where
  | nonAsciiName
  | commonNameLength (bytes : Nat)
  | noKey
  | keyTooShort
deriving DecidableEq, Repr

/-- The wording of a fault. -/
def BuildFault.message : BuildFault → String
  | nonAsciiName =>
    "DNSName values should be passed as an A-label string. " ++
      "This means unicode characters should be encoded via a library like idna."
  | commonNameLength bytes =>
    "Attribute's length must be >= 1 and <= 64, but it was " ++
      String.ofList (Decimal.digits bytes)
  | noKey =>
    "Key must be an rsa, dsa, ec, ed25519, ed448, ml-dsa-44, ml-dsa-65, or ml-dsa-87 private key."
  | keyTooShort =>
    "Digest or salt length too long for key size. Use a larger key or shorter salt length if you " ++
      "are specifying a PSS salt"

/-- A request that could not be built, with the full name of the service it was for. -/
structure BuildFailure where
  service : String
  fault : BuildFault
deriving DecidableEq, Repr

/-- The wording of a failure. -/
def BuildFailure.message (f : BuildFailure) : String :=
  "Failed to build signing request for " ++ f.service ++ ": " ++ f.fault.message

end CertRenewal
