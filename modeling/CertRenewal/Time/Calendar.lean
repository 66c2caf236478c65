import CertRenewal.Text.Decimal

/-
  The Gregorian calendar, carried back before its introduction, down to the second. A calendar
  second is six fields; its place on the time line is the number of seconds since the start of
  the year 1. Years are 0 to 9999 as four digits can say; the year 0 has a place too, but no
  time of the program may lie in it.
-/

namespace CertRenewal

/-- A second of the calendar. -/
structure CalendarSecond where
  year : Nat
  month : Nat
  day : Nat
  hour : Nat
  minute : Nat
  second : Nat
deriving DecidableEq, Repr

namespace CalendarSecond

/-- Every fourth year, but of the full centuries only every fourth. -/
def isLeapYear (year : Nat) : Bool :=
  year % 4 == 0 && (year % 100 != 0 || year % 400 == 0)

/-- The number of days in a month. -/
def daysInMonth (year month : Nat) : Nat :=
  match month with
  | 2 => if isLeapYear year then 29 else 28
  | 4 | 6 | 9 | 11 => 30
  | _ => 31

/-- The fields name a second that the calendar has. -/
def isValid (t : CalendarSecond) : Bool :=
  t.year ≤ 9999 && 1 ≤ t.month && t.month ≤ 12 && 1 ≤ t.day && t.day ≤ daysInMonth t.year t.month &&
    t.hour ≤ 23 && t.minute ≤ 59 && t.second ≤ 59

/-- The days before the first of January of a year, counted from that of the year 1. -/
def daysBeforeYear (year : Nat) : Int :=
  let past : Int := year - 1
  past * 365 + past / 4 - past / 100 + past / 400

/-- The days of a year before the first of a month. -/
def daysBeforeMonth (year : Nat) : Nat → Nat
  | 0 => 0
  | 1 => 0
  | month + 1 => daysBeforeMonth year month + daysInMonth year month

/-- The day's number, where the first of January of the year 1 has the number 0. -/
def dayNumber (t : CalendarSecond) : Int :=
  daysBeforeYear t.year + daysBeforeMonth t.year t.month + (t.day - 1)

/-- The seconds since the start of the year 1. -/
def seconds (t : CalendarSecond) : Int :=
  t.dayNumber * 86400 + t.hour * 3600 + t.minute * 60 + t.second

/-- The extended ISO 8601 form of the fields, without an offset. -/
def isoChars (t : CalendarSecond) : List Char :=
  Decimal.padded 4 t.year ++ '-' :: Decimal.padded 2 t.month ++ '-' :: Decimal.padded 2 t.day ++
    'T' :: Decimal.padded 2 t.hour ++ ':' :: Decimal.padded 2 t.minute ++
    ':' :: Decimal.padded 2 t.second

/-- The extended ISO 8601 text of a second of universal time. -/
def isoText (t : CalendarSecond) : String := String.ofList (t.isoChars ++ "+00:00".toList)

end CalendarSecond

end CertRenewal
