import CertRenewal.Telemetry.Event
import CertRenewal.Json.Value

/-
  How events are shown: the names of loggers, messages, instruments and spans, and the fields
  that go with each.
-/

namespace CertRenewal.Telemetry

/-! ## Log records -/

/-- How severe a record is. -/
inductive Severity where
  | debug
  | info
  | warning
  | error
deriving DecidableEq, Repr

/-- The name of a severity. -/
def Severity.label : Severity → String
  | debug => "DEBUG"
  | info => "INFO"
  | warning => "WARNING"
  | error => "ERROR"

/-- The kind of a read error, as records name it. -/
def readErrorKind : Certificate.ReadError → String
  | .noBlock => "CertificateDecodeError"
  | .notCertificate => "CertificateDecodeError"
  | .malformed => "CertificateParseError"

/-- The end of a certificate in a record. -/
def notAfterField (d : Rotation.Decision) : Json :=
  .nullable (d.notAfter.map fun t => .text t.isoText)

namespace Record

/-- The logger of a record. -/
def logger : Record → String
  | certificateUnreadable _ => "webhook_tls.tls.expiry"
  | _ => "webhook_tls.services.lifecycle_service"

/-- The severity of a record. -/
def severity : Record → Severity
  | certificateUnreadable _ => .warning
  | rotationChecked _ => .debug
  | keyGenerationFailed _ _ => .error
  | signingRequestFailed _ _ => .error
  | signingRequestBuilt _ _ _ _ => .info

/-- The message of a record. -/
def message : Record → String
  | certificateUnreadable _ => "certificate_unreadable"
  | rotationChecked _ => "rotation_checked"
  | keyGenerationFailed _ _ => "private_key_generation_failed"
  | signingRequestFailed _ _ => "signing_request_failed"
  | signingRequestBuilt _ _ _ _ => "signing_request_built"

/-- The fields of a record. -/
def fields : Record → List (String × Json)
  | certificateUnreadable reason =>
    [("error_type", .text (readErrorKind reason)), ("error", .text reason.message)]
  | rotationChecked d =>
    [("rotate", .bool d.rotate), ("reason", .text d.reason.label), ("not_after", notAfterField d)]
  | keyGenerationFailed service failure =>
    [("service", .text service), ("error", .text failure.message)]
  | signingRequestFailed service failure =>
    [("service", .text service), ("error", .text failure.message)]
  | signingRequestBuilt name commonName dnsNames addresses =>
    [("request_name", .text name), ("common_name", .text commonName),
      ("dns_names", .texts dnsNames), ("ip_addresses", .texts (addresses.map Ip.text))]

/-- A record as a value. -/
def toJson (r : Record) : Json :=
  .object
    [("logger", .text r.logger), ("level", .text r.severity.label), ("message", .text r.message),
      ("extra", .record r.fields)]

end Record

/-! ## Samples -/

/-- The name of a stage. -/
def Stage.label : Stage → String
  | key => "key"
  | csr => "csr"

namespace Sample

/-- The instrument of a sample. -/
def instrument : Sample → String
  | keyGenerated _ => "webhook_tls_keys_generated_total"
  | keyDuration => "webhook_tls_key_generation_duration_seconds"
  | requestBuilt _ => "webhook_tls_signing_requests_built_total"
  | requestFailed _ => "webhook_tls_signing_request_failures_total"
  | rotationDecided _ _ => "webhook_tls_rotation_decisions_total"

/-- The labels of a sample; a duration has none. -/
def labels? : Sample → Option (List (String × Json))
  | keyGenerated bits => some [("key_size", .int bits)]
  | keyDuration => none
  | requestBuilt host => some [("host_kind", .text host.label)]
  | requestFailed stage => some [("stage", .text stage.label)]
  | rotationDecided reason rotate =>
    some [("reason", .text reason.label), ("rotate", .text (if rotate then "true" else "false"))]

/-- A sample as a value. Of a duration it is told only that it is not negative. -/
def toJson (s : Sample) : Json :=
  match s.labels? with
  | some labels =>
    .object [("name", .text s.instrument), ("value", .int 1), ("labels", .record labels)]
  | none => .object [("name", .text s.instrument), ("non_negative", .bool true)]

end Sample

/-! ## Spans -/

/-- The name of an operation. -/
def Operation.label : Operation → String
  | evaluate => "ExpiryPolicy.evaluate"
  | build => "SigningRequestBuilder.build"
  | issue => "CertificateLifecycleService.issue"
  | renewal => "api.renewal"

/-- The value of an attribute. -/
def AttributeValue.toJson : AttributeValue → Json
  | text s => .text s
  | flag b => .bool b

/-- A span as a value. -/
def EndedSpan.toJson (s : EndedSpan) : Json :=
  .object
    [("name", .text s.operation.label),
      ("attributes", .object (s.attributes.map fun (name, v) => (name, v.toJson))),
      ("status", .text (if s.failed then "ERROR" else "UNSET"))]

/-! ## Reports -/

/-- The log records among events. -/
def records (events : List Event) : List Record :=
  events.filterMap fun
    | .log r => some r
    | _ => none

/-- The samples among events. -/
def samples (events : List Event) : List Sample :=
  events.filterMap fun
    | .sample s => some s
    | _ => none

/-- The spans among events. -/
def spans (events : List Event) : List EndedSpan :=
  events.filterMap fun
    | .spanEnded s => some s
    | _ => none

/-- Events by kind, each kind in the order in which they happened. -/
def report (events : List Event) : List (String × Json) :=
  [("logs", .list ((records events).map Record.toJson)),
    ("metrics", .list ((samples events).map Sample.toJson)),
    ("spans", .list ((spans events).map EndedSpan.toJson))]

end CertRenewal.Telemetry
