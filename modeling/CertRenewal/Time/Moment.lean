import CertRenewal.Time.Calendar
import CertRenewal.Time.Span

/-
  Moments: what a clock or a caller says the time is. A moment is a calendar second, microseconds
  within it, and possibly an offset from universal time; without an offset it is universal time.
  Two moments are the same instant when their distances from the start of the year 1 agree,
  whatever the fields say. The present is a moment with its origin, since a caller is trusted to
  mean universal time and a clock is not.
-/

namespace CertRenewal

/-- A reading of a clock. -/
structure Moment where
  second : CalendarSecond
  microsecond : Nat
  offset : Option Span
deriving DecidableEq, Repr

/-- A point of the time line: microseconds since the start of the year 1, universal time. -/
structure Instant where
  microseconds : Int
deriving DecidableEq, Repr

namespace CalendarSecond

/-- The instant at which a second of universal time begins. -/
def instant (t : CalendarSecond) : Instant := ⟨t.seconds * 1000000⟩

end CalendarSecond

namespace Instant

/-- The span from one instant to another. -/
def since (later earlier : Instant) : Span := ⟨later.microseconds - earlier.microseconds⟩

end Instant

namespace Moment

/-- The instant that a moment denotes. -/
def instant (m : Moment) : Instant :=
  let offset := match m.offset with
    | some o => o.microseconds
    | none => 0
  ⟨m.second.seconds * 1000000 + m.microsecond - offset⟩

end Moment

/-- The present: as a caller names it, or as a clock shows it. -/
inductive Present where
  | named (moment : Moment)
  | clock (reading : Moment)
deriving DecidableEq, Repr

/-- The instant of the present. A clock that shows no offset does not tell which one it is. -/
def Present.instant? : Present → Option Instant
  | named moment => some moment.instant
  | clock reading => if reading.offset.isSome then some reading.instant else none

/-! ## Reading -/

namespace Moment

/-- Two digits and what follows them. -/
def twoDigits? : List Char → Option (Nat × List Char)
  | a :: b :: rest => do
    let n ← Decimal.value? [a, b]
    some (n, rest)
  | _ => none

/-- Two digits after a given character. -/
def field? (mark : Char) : List Char → Option (Nat × List Char)
  | c :: rest => if c = mark then twoDigits? rest else none
  | [] => none

/-- The six digits after a point, or zero when there is no point. -/
def fraction? : List Char → Option (Nat × List Char)
  | '.' :: rest => do
    let n ← Decimal.value? (rest.take 6)
    if 6 ≤ rest.length then some (n, rest.drop 6) else none
  | s => some (0, s)

/-- Seconds with a fraction after a colon, or zero when there is no colon. -/
def seconds? : List Char → Option (Nat × Nat × List Char)
  | ':' :: rest => do
    let (second, rest) ← twoDigits? rest
    let (micro, rest) ← fraction? rest
    some (second, micro, rest)
  | s => some (0, 0, s)

/-- The size of an offset; one under a second counts as none. -/
def offsetSize (seconds micro : Nat) : Span :=
  if seconds = 0 then ⟨0⟩ else .ofParts 0 seconds micro

/-- The offset at the end of a text; none when nothing is left. -/
def offset? : List Char → Option (Option Span)
  | [] => some none
  | sign :: rest => do
    let (hour, rest) ← twoDigits? rest
    let (minute, rest) ← field? ':' rest
    let (second, micro, rest) ← seconds? rest
    let size := offsetSize (hour * 3600 + minute * 60 + second) micro
    if rest ≠ [] then none
    else if sign = '+' then some (some size)
    else if sign = '-' then some (some ⟨-size.microseconds⟩)
    else none

/-- The moment of an extended ISO 8601 text. -/
def ofIsoText? (s : String) : Option Moment := do
  let s := s.toList
  let year ← Decimal.value? (s.take 4)
  let (month, s) ← field? '-' (s.drop 4)
  let (day, s) ← field? '-' s
  let (hour, s) ← field? 'T' s
  let (minute, s) ← field? ':' s
  let (second, s) ← field? ':' s
  let (micro, s) ← fraction? s
  let offset ← offset? s
  let t : CalendarSecond := ⟨year, month, day, hour, minute, second⟩
  if t.isValid && 1 ≤ year then some ⟨t, micro, offset⟩ else none

end Moment

end CertRenewal
