import CertRenewal.Certificate.Algorithm
import CertRenewal.Certificate.Extension
import CertRenewal.Certificate.Name
import CertRenewal.Certificate.Timestamp

/-
  X.509 certificates: what they consist of, the element each is written as, and the reading of
  that element. Every reading is the inverse of the writing beside it; what is not in the one
  written form, down to a stray byte at any level, is no certificate. Fields whose meaning does
  not matter here are kept as they stand, so that a certificate that was read can be written
  again byte for byte.
-/

namespace CertRenewal

namespace Certificate

open Der

/-- The first and the last second in which a certificate is valid. -/
structure Validity where
  notBefore : Timestamp
  notAfter : Timestamp
deriving DecidableEq, Repr

/-- What an issuer signs. The version is one less than its usual name, and the lowest one is not
written. -/
structure Body where
  version : Nat
  serial : Int
  algorithm : Algorithm
  issuer : Name
  validity : Validity
  subject : Name
  publicKey : PublicKey
  issuerId : Option BitString
  subjectId : Option BitString
  extensions : Option (List Extension)
deriving DecidableEq, Repr

namespace Validity

/-- The validity as an element. -/
def toElement (v : Validity) : Element :=
  .sequence [v.notBefore.toElement, v.notAfter.toElement]

/-- The validity that an element is. -/
def ofElement? (e : Element) : Option Validity := do
  match ← e.children? .sequence with
  | [notBefore, notAfter] =>
    let notBefore ← Timestamp.ofElement? notBefore
    let notAfter ← Timestamp.ofElement? notAfter
    some ⟨notBefore, notAfter⟩
  | _ => none

/-- Both ends are proper. -/
def isProper (v : Validity) : Bool := v.notBefore.isProper && v.notAfter.isProper

end Validity

/-! ## Optional fields -/

/-- The tags of the fields that may be missing. -/
def versionTag : Tag := .context true 0
def issuerIdTag : Tag := .context false 1
def subjectIdTag : Tag := .context false 2
def extensionsTag : Tag := .context true 3

/-- Takes an element with a given tag off the front of a list, if one is there. -/
def takeTagged (tag : Tag) : List Element → Option Element × List Element
  | [] => (none, [])
  | e :: es => if e.tag = tag then (some e, es) else (none, e :: es)

/-- Reads an element that may be missing. -/
def readOptional? {α : Type} (read : Element → Option α) : Option Element → Option (Option α)
  | none => some none
  | some e => (read e).map some

/-- The version inside its tag: a byte, and not the one that is left unwritten. -/
def version? (e : Element) : Option Nat := do
  let inner ← e.inside? versionTag
  let n ← inner.nat?
  if 1 ≤ n ∧ n ≤ 255 then some n else none

/-- The extensions inside their tag. -/
def extensions? (e : Element) : Option (List Extension) := do
  let inner ← e.inside? extensionsTag
  Extension.listOfElement? inner

namespace Body

/-- The elements of the fields. -/
def toElements (b : Body) : List Element :=
  (if b.version = 0 then [] else [.node versionTag [.ofInt b.version]]) ++
    [.ofInt b.serial, b.algorithm.toElement, b.issuer.toElement, b.validity.toElement,
      b.subject.toElement, b.publicKey.toElement] ++
    (b.issuerId.map (BitString.toElement issuerIdTag)).toList ++
    (b.subjectId.map (BitString.toElement subjectIdTag)).toList ++
    (b.extensions.map fun xs => Element.node extensionsTag [Extension.listToElement xs]).toList

/-- A body as an element. -/
def toElement (b : Body) : Element := .sequence b.toElements

/-- The body with the given elements. -/
def ofElements? (es : List Element) : Option Body :=
  let (version, es) := takeTagged versionTag es
  match es with
  | serial :: algorithm :: issuer :: validity :: subject :: publicKey :: es => do
    let (issuerId, es) := takeTagged issuerIdTag es
    let (subjectId, es) := takeTagged subjectIdTag es
    let (extensions, es) := takeTagged extensionsTag es
    let version ← readOptional? version? version
    let serial ← serial.int?
    let algorithm ← Algorithm.ofElement? algorithm
    let issuer ← Name.ofElement? issuer
    let validity ← Validity.ofElement? validity
    let subject ← Name.ofElement? subject
    let publicKey ← PublicKey.ofElement? publicKey
    let issuerId ← readOptional? (BitString.ofElement? issuerIdTag) issuerId
    let subjectId ← readOptional? (BitString.ofElement? subjectIdTag) subjectId
    let extensions ← readOptional? extensions? extensions
    if es = [] then
      some ⟨version.getD 0, serial, algorithm, issuer, validity, subject, publicKey, issuerId,
        subjectId, extensions⟩
    else none
  | _ => none

/-- The body that an element is. -/
def ofElement? (e : Element) : Option Body := do
  let es ← e.children? .sequence
  ofElements? es

/-- All fields are such as the format admits. -/
def isProper (b : Body) : Bool :=
  b.version ≤ 255 && b.algorithm.isProper && b.issuer.isProper && b.validity.isProper &&
    b.subject.isProper && b.publicKey.isProper && b.issuerId.all BitString.isProper &&
    b.subjectId.all BitString.isProper && b.extensions.all (·.all Extension.isProper)

end Body

end Certificate

open Der

/-- A certificate: a body, the algorithm of the issuer's signature, and the signature. -/
structure Certificate where
  body : Certificate.Body
  algorithm : Certificate.Algorithm
  signature : BitString
deriving DecidableEq, Repr

namespace Certificate

/-- A certificate as an element. -/
def toElement (c : Certificate) : Element :=
  .sequence [c.body.toElement, c.algorithm.toElement, c.signature.toElement .bitString]

/-- The certificate that an element is. -/
def ofElement? (e : Element) : Option Certificate := do
  match ← e.children? .sequence with
  | [body, algorithm, signature] =>
    let body ← Body.ofElement? body
    let algorithm ← Algorithm.ofElement? algorithm
    let signature ← BitString.ofElement? .bitString signature
    some ⟨body, algorithm, signature⟩
  | _ => none

/-- The bytes of a certificate. -/
def encode (c : Certificate) : Bytes := c.toElement.encode

/-- The contents of a certificate are so short that no length in it takes more than four bytes
after its count. -/
def maxContents : Nat := 1 <<< 32

/-- The certificate that a byte string is. -/
def decode? (b : Bytes) : Option Certificate := do
  let e ← readOne? b
  if e.contents.length < maxContents then ofElement? e else none

/-- All parts are such as the format admits. -/
def isProper (c : Certificate) : Bool :=
  c.body.isProper && c.algorithm.isProper && c.signature.isProper

end Certificate

end CertRenewal
