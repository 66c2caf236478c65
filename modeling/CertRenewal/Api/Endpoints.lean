import CertRenewal.Api.Body
import CertRenewal.Api.Http
import CertRenewal.Json.Printer
import CertRenewal.Settings
import CertRenewal.Telemetry.Report

/-
  The endpoints. A request is decided in this order: where it leads, whether its body can be
  read, whether there is a service to ask, whether the fields of the body are good, whether the
  texts of its pair have bytes, and then what the service says. A renewal that fails for its key or
  its request is a response; a check that comes to no decision is not, it leaves the endpoint as an
  error. So does a refusal that cannot be written.
-/

namespace CertRenewal.Api

open Telemetry Lifecycle Rotation

/-- Errors that leave an endpoint without a response. -/
inductive EndpointError where
  | evaluation (e : EvaluationError)
  | noService
  | notCompliant
  | unencodable (e : Unencodable)
deriving DecidableEq, Repr

/-- The wording of an error. -/
def EndpointError.message : EndpointError → String
  | evaluation e => e.message
  | noService => "CertificateLifecycleService not initialized"
  | notCompliant => "Out of range float values are not JSON compliant"
  | unencodable e => e.message

/-- What an endpoint works with: the settings, the service if one is installed, where keys come
from, and what the clock shows. -/
structure Context where
  settings : Settings
  service : Option Service
  source : Rsa.KeySource
  clock : Moment

/-- The fields of a decision in a response. -/
def decisionFields (d : Decision) : List (String × Json) :=
  [("rotate", .bool d.rotate), ("reason", .text d.reason.label), ("not_after", notAfterField d),
    ("remaining_seconds",
      .nullable (d.remaining.map fun s => .real (.ofMillionths s.microseconds)))]

/-- A byte string that is a text, as a value. -/
def textOf (b : Bytes) : Json := .text ((Utf8.toString? b).getD "")

/-- The fields of a renewal in a response. -/
def outcomeFields (o : Outcome) : List (String × Json) :=
  decisionFields o.decision ++
    [("private_key_pem", .nullable (o.bundle.map fun b => textOf b.privateKey)),
      ("certificate_signing_request", .nullable (o.bundle.map fun b => b.request.manifest))]

/-- The response to a renewal that came to nothing. -/
def failureResponse (e : IssueError) : Response :=
  let (error, code, text) :=
    match e with
    | .key f => ("Key generation failed", "KEY_GENERATION_FAILED", f.message)
    | .request f => ("Signing request build failed", "CSR_BUILD_FAILED", f.message)
  .answer 500 (.object
    [("detail", .object
      [("error", .text error), ("code", .text code), ("detail", .text text)])])

/-- The check of a pair. -/
def rotationCheck (s : Service) (clock : Moment) (b : PairBody) :
    Traced EndpointError Response := do
  let pair ← Traced.ofExcept (b.pair.mapError EndpointError.unencodable)
  let d ← (s.check pair (.clock clock)).mapError EndpointError.evaluation
  pure (.answer 200 (.record (decisionFields d)))

/-- Why a renewal comes to no outcome: the texts of its pair have no bytes, or the service has an
error. -/
inductive RenewalError where
  | unencodable (e : Unencodable)
  | service (e : RenewError)
deriving DecidableEq, Repr

/-- A renewal as a span. -/
def renewalSpan (s : Service) (source : Rsa.KeySource) (clock : Moment) (b : RenewalBody) :
    Traced RenewalError Outcome :=
  Traced.inSpan .renewal
    [("service", .text b.service.text), ("namespace", .text b.namespaceName.text)]
    (fun (o : Outcome) => [("rotate", .flag o.decision.rotate), ("issued", .flag o.issued)]) do
      let pair ← Traced.ofExcept (b.pair.pair.mapError RenewalError.unencodable)
      (s.renew source b.identity pair (.clock clock) b.force b.useFullName).mapError
        RenewalError.service

/-- The response to a renewal. -/
def renewal (s : Service) (source : Rsa.KeySource) (clock : Moment) (b : RenewalBody) :
    Traced EndpointError Response :=
  let x := renewalSpan s source clock b
  { events := x.events
    outcome :=
      match x.outcome with
      | .ok o => .ok (.answer 200 (.record (outcomeFields o)))
      | .error (.service (.issue e)) => .ok (failureResponse e)
      | .error (.service (.evaluation e)) => .error (.evaluation e)
      | .error (.unencodable e) => .error (.unencodable e) }

/-- The refusal of a body, if it can be written. It repeats the values it refuses: what is a number
there has to be one, and the text of the whole has to have bytes. -/
def refusal (es : List Validation.FieldError) : Except EndpointError Response :=
  let body := fieldErrorsJson es
  if body.isFinite then
    match Point.utf8 body.wire with
    | .ok _ => .ok (badFields es)
    | .error e => .error (.unencodable e)
  else .error .notCompliant

/-- What an endpoint makes of a body that was checked. -/
def onChecked {α : Type} (x : Validation.Checked α) (f : α → Traced EndpointError Response) :
    Traced EndpointError Response :=
  match x with
  | .good a => f a
  | .bad es => Traced.ofExcept (refusal es)

/-- The answer of an endpoint that asks the service. -/
def ask {α : Type} (c : Context) (r : Request) (fields : Json → Validation.Checked α)
    (f : Service → α → Traced EndpointError Response) : Traced EndpointError Response :=
  match bodyValue r with
  | .error e => pure (unreadableBody e)
  | .ok v =>
    match c.service with
    | none => Traced.fail .noService
    | some s => onChecked (checkBody fields v) (f s)

/-- The answer of an endpoint. -/
def serve (c : Context) (r : Request) : Endpoint → Traced EndpointError Response
  | .rotationCheck => ask c r pairFields fun s b => rotationCheck s c.clock b
  | .renewal => ask c r renewalFields fun s b => renewal s c.source c.clock b
  | .health =>
    pure (.answer 200 (.object [("status", .text "ok"), ("service", .text c.settings.appName)]))

/-- The answer to a request. -/
def respond (c : Context) (r : Request) : Traced EndpointError Response :=
  match route r with
  | .endpoint e => serve c r e
  | .wrongMethod => pure (.detail 405 "Method Not Allowed")
  | .withoutSlash => pure .redirect
  | .nowhere => pure (.detail 404 "Not Found")

end CertRenewal.Api
