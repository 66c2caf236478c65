import CertRenewal.Time.Moment

/-
  Decisions about a certificate in use: it is replaced because there is none, because it cannot
  be read, or because too little of its life is left; or it stays. The two decisions that rest on
  a reading of the certificate carry its end and the time that is left until then.
-/

namespace CertRenewal.Rotation

/-- Why a certificate is replaced or stays. -/
inductive Reason where
  | notProvisioned
  | unreadable
  | withinReserve
  | valid
deriving DecidableEq, Repr

/-- The name of a reason. -/
def Reason.label : Reason → String
  | notProvisioned => "not_provisioned"
  | unreadable => "unreadable"
  | withinReserve => "within_reserve_window"
  | valid => "valid"

/-- A decision. -/
inductive Decision where
  | notProvisioned
  | unreadable
  | withinReserve (notAfter : CalendarSecond) (remaining : Span)
  | valid (notAfter : CalendarSecond) (remaining : Span)
deriving DecidableEq, Repr

namespace Decision

/-- The reason of a decision. -/
def reason : Decision → Reason
  | notProvisioned => .notProvisioned
  | unreadable => .unreadable
  | withinReserve _ _ => .withinReserve
  | valid _ _ => .valid

/-- Whether the certificate is to be replaced. -/
def rotate : Decision → Bool
  | valid _ _ => false
  | _ => true

/-- The end of the certificate, when it was read. -/
def notAfter : Decision → Option CalendarSecond
  | withinReserve t _ => some t
  | valid t _ => some t
  | _ => none

/-- The time left, when the certificate was read. -/
def remaining : Decision → Option Span
  | withinReserve _ left => some left
  | valid _ left => some left
  | _ => none

end Decision

end CertRenewal.Rotation
