import CertRenewal.Certificate.Basic
import CertRenewal.Pem.Block

/-
  From the text a controller keeps to the end of a certificate's life. The text's first PEM
  block has to be a certificate; what stands before it is passed over. Two faults are set apart
  from bytes that cannot be read: a certificate of a version that does not exist, and one that
  ends in the year 0, which the calendar of answers does not have.
-/

namespace CertRenewal.Certificate

/-- Why a text holds no certificate that can be read. -/
inductive ReadError where
  | noBlock
  | notCertificate
  | malformed
deriving DecidableEq, Repr

/-- What a certificate can be that was read and still has no end that can be told. -/
inductive Anomaly where
  | unknownVersion (version : Nat)
  | yearZero
deriving DecidableEq, Repr

/-- Why the end of a certificate cannot be told. -/
inductive Fault where
  | unreadable (reason : ReadError)
  | anomalous (anomaly : Anomaly)
deriving DecidableEq, Repr

namespace ReadError

/-- The wording of an error. -/
def message : ReadError → String
  | noBlock => "Failed to decode PEM: no PEM block found"
  | notCertificate => "Failed to decode PEM: first block is not a CERTIFICATE"
  | malformed => "Failed to parse certificate"

end ReadError

namespace Anomaly

/-- The wording of an anomaly. -/
def message : Anomaly → String
  | unknownVersion version =>
    String.ofList (Decimal.digits version) ++ " is not a valid X509 version"
  | yearZero => "year 0 is out of range"

end Anomaly

/-- The begin line of a certificate. -/
def beginLine : Bytes := Utf8.ofString "-----BEGIN CERTIFICATE-----"

/-- The labels under which a certificate is looked for among blocks. -/
def labels : List String := ["CERTIFICATE", "X509 CERTIFICATE"]

/-- The certificate in the first block of a text that has a fitting label, where every block of
the text is in order. -/
def ofBlocks? (data : Bytes) : Option Certificate := do
  let blocks ← Pem.read? data
  let block ← blocks.find? fun b => labels.contains b.label
  decode? block.content

/-- The text from its first begin marker on, which has to open a certificate. -/
def locate (data : Bytes) : Except ReadError Bytes :=
  match cut? Pem.beginMarker data with
  | none => .error .noBlock
  | some (_, rest) =>
    let block := Pem.beginMarker ++ rest
    match after? beginLine block with
    | none => .error .notCertificate
    | some _ => .ok block

/-- The certificate of a text. -/
def load (data : Bytes) : Except Fault Certificate :=
  match locate data with
  | .error reason => .error (.unreadable reason)
  | .ok block =>
    match ofBlocks? block with
    | none => .error (.unreadable .malformed)
    | some c =>
      if c.body.version = 0 ∨ c.body.version = 2 then .ok c
      else .error (.anomalous (.unknownVersion c.body.version))

/-- The last second of the validity of a text's certificate. -/
def expiration (data : Bytes) : Except Fault CalendarSecond := do
  let c ← load data
  let t := c.body.validity.notAfter.second
  if t.year = 0 then .error (.anomalous .yearZero) else .ok t

end CertRenewal.Certificate
