import CertRenewal.Certificate.Load
import CertRenewal.Rotation.Decision
import CertRenewal.Rsa.Source
import CertRenewal.SigningRequest.Basic

/-
  What the library tells an observer while it works: log records, samples of instruments, and
  spans, which are told when they end. Each is a value that says what happened; how it is shown
  is a matter of `Report`.
-/

namespace CertRenewal.Telemetry

/-- A log record. -/
inductive Record where
  | certificateUnreadable (reason : Certificate.ReadError)
  | rotationChecked (decision : Rotation.Decision)
  | keyGenerationFailed (service : String) (failure : Rsa.GenerationFailure)
  | signingRequestFailed (service : String) (failure : BuildFailure)
  | signingRequestBuilt (name commonName : String) (dnsNames : List String) (addresses : List Ip)
deriving DecidableEq, Repr

/-- The stages at which the issuing of a request can fail. -/
inductive Stage where
  | key
  | csr
deriving DecidableEq, Repr

/-- A sample of an instrument: one more on a counter, or a duration. -/
inductive Sample where
  | keyGenerated (bits : Int)
  | keyDuration
  | requestBuilt (host : HostKind)
  | requestFailed (stage : Stage)
  | rotationDecided (reason : Rotation.Reason) (rotate : Bool)
deriving DecidableEq, Repr

/-- The operations that are spans. -/
inductive Operation where
  | evaluate
  | build
  | issue
  | renewal
deriving DecidableEq, Repr

/-- The value of an attribute of a span. -/
inductive AttributeValue where
  | text (s : String)
  | flag (b : Bool)
deriving DecidableEq, Repr

/-- An attribute of a span. -/
abbrev Attribute := String × AttributeValue

/-- A span that has ended, and whether an error left it. -/
structure EndedSpan where
  operation : Operation
  attributes : List Attribute
  failed : Bool
deriving DecidableEq, Repr

/-- Something an observer is told. -/
inductive Event where
  | log (record : Record)
  | sample (sample : Sample)
  | spanEnded (span : EndedSpan)
deriving DecidableEq, Repr

end CertRenewal.Telemetry
