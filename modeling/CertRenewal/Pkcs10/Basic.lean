import CertRenewal.Certificate.Name
import CertRenewal.Pkcs10.AltName
import CertRenewal.Rsa.Signature

/-
  Certification requests: a subject of one common name, a public key and alternative names, and
  a signature with the private key over exactly the bytes of these. Reading is strict in the same
  way as for certificates and takes back what writing gave.
-/

namespace CertRenewal.Pkcs10

open Der

/-- What the signature of a request covers. -/
structure Info where
  commonName : String
  publicKey : Rsa.PublicKey
  altNames : List AltName
deriving DecidableEq, Repr

/-- A certification request. -/
structure Request where
  info : Info
  signature : Bytes
deriving DecidableEq, Repr

/-- The only element of a list. -/
def only? : List Element → Option Element
  | [e] => some e
  | _ => none

namespace Info

/-- The tag of the attributes. -/
def attributesTag : Tag := .context true 0

/-- The attribute that asks for extensions. -/
def extensionRequest : Oid := .ofArcs [1, 2, 840, 113549, 1, 9, 14]

/-- The attribute that asks for the alternative names. -/
def altNameEntry (names : List AltName) : Element :=
  .sequence
    [extensionRequest.toElement,
      .node .set [Certificate.Extension.listToElement [AltName.toExtension names]]]

/-- The alternative names that an attribute asks for. -/
def ofEntry? (e : Element) : Option (List AltName) := do
  match ← e.children? .sequence with
  | [kind, values] =>
    let kind ← Oid.ofElement? kind
    let values ← values.children? .set
    let value ← only? values
    match ← Certificate.Extension.listOfElement? value with
    | [x] => if kind = extensionRequest then AltName.ofExtension? x else none
    | _ => none
  | _ => none

/-- What the signature covers, as an element. -/
def toElement (i : Info) : Element :=
  .sequence
    [.ofInt 0, (Certificate.Name.ofCommonName i.commonName).toElement, i.publicKey.toInfo.toElement,
      .node attributesTag [altNameEntry i.altNames]]

/-- What the signature covers, from an element. -/
def ofElement? (e : Element) : Option Info := do
  match ← e.children? .sequence with
  | [version, subject, publicKey, attributes] =>
    let version ← version.int?
    let subject ← Certificate.Name.ofElement? subject
    let commonName ← subject.commonName?
    let publicKey ← Certificate.PublicKey.ofElement? publicKey
    let publicKey ← Rsa.PublicKey.ofInfo? publicKey
    let attributes ← attributes.children? attributesTag
    let entry ← only? attributes
    let altNames ← ofEntry? entry
    if version = 0 then some ⟨commonName, publicKey, altNames⟩ else none
  | _ => none

/-- The bytes that the signature covers. -/
def encode (i : Info) : Bytes := i.toElement.encode

/-- The request with the signature of a private key, if the key is long enough to sign. -/
def sign? (i : Info) (k : Rsa.PrivateKey) : Option Request := do
  let signature ← k.sign? i.encode
  some ⟨i, signature⟩

end Info

namespace Request

/-- The algorithm of the signature. -/
def algorithm : Certificate.Algorithm := ⟨Certificate.Algorithm.sha256WithRsa, some .null⟩

/-- A request as an element. -/
def toElement (r : Request) : Element :=
  .sequence
    [r.info.toElement, algorithm.toElement, (BitString.ofBytes r.signature).toElement .bitString]

/-- The request that an element is. -/
def ofElement? (e : Element) : Option Request := do
  match ← e.children? .sequence with
  | [info, kind, signature] =>
    let info ← Info.ofElement? info
    let kind ← Certificate.Algorithm.ofElement? kind
    let signature ← BitString.ofElement? .bitString signature
    if kind = algorithm ∧ signature.unused = 0 then some ⟨info, signature.bytes⟩ else none
  | _ => none

/-- The bytes of a request. -/
def encode (r : Request) : Bytes := r.toElement.encode

/-- The request that a byte string is. -/
def decode? (b : Bytes) : Option Request := do
  let e ← readOne? b
  ofElement? e

/-- The label of the PEM block of a request. -/
def label : String := "CERTIFICATE REQUEST"

/-- The PEM text of a request. -/
def pem (r : Request) : Bytes := Pem.write ⟨label, r.encode⟩

end Request

end CertRenewal.Pkcs10
