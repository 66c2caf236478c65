import CertRenewal.Rotation.Policy
import CertRenewal.SigningRequest.Builder

/-
  The service that a controller asks about its certificate. It can check a pair, issue a new key
  with a signing request, or do the second when the first says so or the caller insists. The
  certificate at hand never stands in the way of a new one, whatever its bytes are, unless
  it is one of the two anomalies that are not taken for unreadable or the clock does not tell
  the instant at which it was read.
-/

namespace CertRenewal.Lifecycle

open Telemetry Rotation

/-- The size of a key when nothing else is said. -/
def defaultKeySize : Int := 2048

/-- A service. -/
structure Service where
  policy : Policy
  builder : Builder
  keySize : Int
  useFullName : Bool
deriving DecidableEq, Repr

/-- The service when nothing else is said. -/
def Service.standard : Service := ⟨.standard, .standard, defaultKeySize, false⟩

/-- A new private key and the signing request for it. -/
structure Bundle where
  privateKey : Bytes
  request : SigningRequest
deriving DecidableEq, Repr

/-- What a renewal came to: the decision, and a bundle if one was issued. -/
structure Outcome where
  decision : Decision
  bundle : Option Bundle
deriving DecidableEq, Repr

/-- Why no bundle was issued. -/
inductive IssueError where
  | key (failure : Rsa.GenerationFailure)
  | request (failure : BuildFailure)
deriving DecidableEq, Repr

/-- Why a renewal came to nothing. -/
inductive RenewError where
  | evaluation (error : EvaluationError)
  | issue (error : IssueError)
deriving DecidableEq, Repr

/-- Whether a bundle was issued. -/
def Outcome.issued (o : Outcome) : Bool := o.bundle.isSome

/-- A key from a source, told to an observer. -/
def generate (source : Rsa.KeySource) (bits : Int) :
    Traced Rsa.GenerationFailure (Option Rsa.PrivateKey) := do
  let key ← Traced.ofExcept (source.draw bits)
  Traced.count (.keyGenerated bits)
  Traced.count .keyDuration
  pure key

/-- The PEM text of a key; a missing one has none. -/
def keyText (key : Option Rsa.PrivateKey) : Bytes :=
  match key with
  | some k => k.pem
  | none => []

namespace Service

/-- The decision on a pair. -/
def check (s : Service) (pair : Option Pair) (now : Present) :
    Traced EvaluationError Decision := do
  let d ← s.policy.evaluate pair now
  Traced.log (.rotationChecked d)
  pure d

/-- What is told when no key could be had. -/
def keyFailed (i : Identity) (f : Rsa.GenerationFailure) : List Event :=
  [.sample (.requestFailed .key), .log (.keyGenerationFailed i.inClusterName f)]

/-- What is told when no request could be built. -/
def requestFailed (i : Identity) (f : BuildFailure) : List Event :=
  [.sample (.requestFailed .csr), .log (.signingRequestFailed i.inClusterName f)]

/-- What is told when a request was built. -/
def requestBuilt (r : SigningRequest) : Record :=
  .signingRequestBuilt r.name r.commonName r.dnsNames r.addresses

/-- A new key and a request for it. -/
def issue (s : Service) (source : Rsa.KeySource) (i : Identity) (fullName : Option Bool) :
    Traced IssueError Bundle :=
  Traced.inSpan .issue [("service", .text i.service), ("namespace", .text i.namespaceName)]
    (fun (b : Bundle) => [("request_name", .text b.request.name)]) do
      let key ← ((generate source s.keySize).onError (keyFailed i)).mapError IssueError.key
      let request ←
        ((s.builder.build key i (fullName.getD s.useFullName)).onError (requestFailed i)).mapError
          IssueError.request
      Traced.log (requestBuilt request)
      pure ⟨keyText key, request⟩

/-- The decision on a pair, and a bundle when it says to replace the pair or the caller does. -/
def renew (s : Service) (source : Rsa.KeySource) (i : Identity) (pair : Option Pair)
    (now : Present) (force : Bool) (fullName : Option Bool) : Traced RenewError Outcome := do
  let d ← (s.check pair now).mapError RenewError.evaluation
  if d.rotate || force then
    let b ← (s.issue source i fullName).mapError RenewError.issue
    pure ⟨d, some b⟩
  else pure ⟨d, none⟩

end Service

end CertRenewal.Lifecycle
