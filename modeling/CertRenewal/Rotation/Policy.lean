import CertRenewal.Telemetry.Traced

/-
  The rotation policy. A certificate stays as long as at least the reserve window is left of its
  life; it is replaced when less is left, when it cannot be read and when there is none. The
  decision depends on the certificate's bytes, the time and the window alone. There is none for
  a certificate with an anomaly, nor for one that was read while the clock does not tell the
  instant.
-/

namespace CertRenewal.Rotation

open Telemetry

/-- A certificate and its private key, both as PEM text. -/
structure Pair where
  certificate : Bytes
  privateKey : Bytes
deriving DecidableEq, Repr

/-- A policy: the least time that has to be left, which is not negative. -/
structure Policy where
  window : Span
  window_nonneg : 0 ≤ window.microseconds
deriving DecidableEq, Repr

/-- Why there is no policy with a given window. -/
inductive WindowError where
  | negative
  | outOfRange (range : Span.OutOfRange)
deriving DecidableEq, Repr

/-- The wording of an error. -/
def WindowError.message : WindowError → String
  | negative => "reserve_window must not be negative"
  | outOfRange range => range.message

/-- Why there is no decision. -/
inductive EvaluationError where
  | certificate (anomaly : Certificate.Anomaly)
  | floatingClock
deriving DecidableEq, Repr

/-- The wording of an error. -/
def EvaluationError.message : EvaluationError → String
  | certificate anomaly => anomaly.message
  | floatingClock => "can't subtract offset-naive and offset-aware datetimes"

namespace Policy

/-- The policy with a given window. -/
def make (window : Span) : Except WindowError Policy :=
  if h : 0 ≤ window.microseconds then .ok ⟨window, h⟩ else .error .negative

/-- The policy with a window that is first checked for its range. -/
def ofSpan (window : Span) : Except WindowError Policy :=
  match window.check with
  | .ok window => make window
  | .error range => .error (.outOfRange range)

/-- The policy when nothing else is said: half of a certificate's usual year. -/
def standard : Policy := ⟨.ofDays 180, by decide⟩

/-- The decision on a certificate that ends at a known time. -/
def compare (p : Policy) (notAfter : CalendarSecond) (now : Instant) : Decision :=
  let left := notAfter.instant.since now
  if left < p.window then .withinReserve notAfter left else .valid notAfter left

/-- The decision on a pair that may be missing. -/
def judge (p : Policy) (pair : Option Pair) (now : Present) :
    Traced EvaluationError Decision :=
  match pair with
  | none => pure .notProvisioned
  | some pair =>
    match Certificate.expiration pair.certificate with
    | .ok notAfter =>
      match now.instant? with
      | some now => pure (p.compare notAfter now)
      | none => Traced.fail .floatingClock
    | .error (.unreadable reason) => do
      Traced.log (.certificateUnreadable reason)
      pure .unreadable
    | .error (.anomalous anomaly) => Traced.fail (.certificate anomaly)

/-- What a span tells of a decision. -/
def attributes (d : Decision) : List Attribute :=
  [("rotate", .flag d.rotate), ("reason", .text d.reason.label)]

/-- The decision on a pair, told to an observer. -/
def evaluate (p : Policy) (pair : Option Pair) (now : Present) :
    Traced EvaluationError Decision :=
  Traced.inSpan .evaluate [] attributes do
    let d ← p.judge pair now
    Traced.count (.rotationDecided d.reason d.rotate)
    pure d

end Policy

end CertRenewal.Rotation
