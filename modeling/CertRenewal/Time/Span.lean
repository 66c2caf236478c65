import CertRenewal.Text.Decimal

/-
  Spans of time as a whole number of microseconds. A span is shown as days, seconds and
  microseconds, of which only the days may be negative, and spans whose days do not fit the
  documented range of nine digits are refused.
-/

namespace CertRenewal

/-- A span of time. -/
structure Span where
  microseconds : Int
deriving DecidableEq, Repr

namespace Span

def microsecondsPerSecond : Int := 1000000
def microsecondsPerDay : Int := 86400000000

/-- The span of a number of days. -/
def ofDays (days : Int) : Span := ⟨days * microsecondsPerDay⟩

/-- The sum of days, seconds and microseconds of any sign. -/
def ofParts (days seconds microseconds : Int) : Span :=
  ⟨days * microsecondsPerDay + seconds * microsecondsPerSecond + microseconds⟩

/-- The whole days of a span, rounded down. -/
def days (s : Span) : Int := s.microseconds / microsecondsPerDay

/-- The whole seconds of a span that its days leave. -/
def secondsOfDay (s : Span) : Int :=
  s.microseconds % microsecondsPerDay / microsecondsPerSecond

/-- The microseconds of a span that its days and seconds leave. -/
def microsecondsOfSecond (s : Span) : Int := s.microseconds % microsecondsPerSecond

/-- The parts of a span: the days carry the sign. -/
theorem ofParts_parts (s : Span) :
    ofParts s.days s.secondsOfDay s.microsecondsOfSecond = s := by
  obtain ⟨m⟩ := s
  simp only [ofParts, days, secondsOfDay, microsecondsOfSecond, microsecondsPerDay,
    microsecondsPerSecond, Span.mk.injEq]
  omega

instance : LT Span := ⟨fun s t => s.microseconds < t.microseconds⟩
instance : LE Span := ⟨fun s t => s.microseconds ≤ t.microseconds⟩

instance (s t : Span) : Decidable (s < t) := inferInstanceAs (Decidable (s.microseconds < _))
instance (s t : Span) : Decidable (s ≤ t) := inferInstanceAs (Decidable (s.microseconds ≤ _))

/-! ## Range -/

/-- Why a span cannot be held: its days have more than nine digits. -/
structure OutOfRange where
  days : Int
deriving DecidableEq, Repr

/-- The most days that a span may have, and with a minus sign the fewest. -/
def maxDays : Int := 999999999

/-- A span, if its days are in range. -/
def check (s : Span) : Except OutOfRange Span :=
  if -maxDays ≤ s.days ∧ s.days ≤ maxDays then .ok s else .error ⟨s.days⟩

/-- The wording; a count of days beyond 32 bits is not repeated. -/
def OutOfRange.message (e : OutOfRange) : String :=
  if -2147483648 ≤ e.days ∧ e.days ≤ 2147483647 then
    "days=" ++ String.ofList (Decimal.intDigits e.days) ++ "; must have magnitude <= 999999999"
  else "Python int too large to convert to C int"

end Span

end CertRenewal
