import CertRenewal.Der.Value
import CertRenewal.Time.Calendar

/-
  The two written forms of a time in a certificate. The short one has two digits for a year from
  1950 to 2049, the long one has four for any year; both end in a Z for universal time. Either
  form may be used for any year it can say.
-/

namespace CertRenewal.Certificate

open Der

/-- The written forms of a time. -/
inductive TimeForm where
  | short
  | long
deriving DecidableEq, Repr

/-- A time in a certificate, in the form it is written in. -/
structure Timestamp where
  form : TimeForm
  second : CalendarSecond
deriving DecidableEq, Repr

namespace TimeForm

/-- The tag of a form. -/
def tag : TimeForm → Tag
  | short => .utcTime
  | long => .generalizedTime

end TimeForm

namespace Timestamp

/-- The fields are a second of the calendar, and the form can say its year. -/
def isProper (t : Timestamp) : Bool :=
  t.second.isValid &&
    match t.form with
    | .short => 1950 ≤ t.second.year && t.second.year ≤ 2049
    | .long => true

/-- The digits of the year. -/
def yearChars (t : Timestamp) : List Char :=
  match t.form with
  | .short => Decimal.padded 2 t.second.year
  | .long => Decimal.padded 4 t.second.year

/-- The digits of the fields after the year, and the Z. -/
def restChars (t : CalendarSecond) : List Char :=
  Decimal.padded 2 t.month ++ (Decimal.padded 2 t.day ++ (Decimal.padded 2 t.hour ++
    (Decimal.padded 2 t.minute ++ (Decimal.padded 2 t.second ++ ['Z']))))

/-- A time as an element. -/
def toElement (t : Timestamp) : Element :=
  ⟨t.form.tag, Utf8.encode (t.yearChars ++ restChars t.second)⟩

/-- The year that two digits stand for: from 50 on in the last century, below in this one. -/
def pivot (n : Nat) : Nat := if 50 ≤ n then 1900 + n else 2000 + n

/-- The number that the next `width` characters spell, and what follows them. -/
def number? (width : Nat) (s : List Char) : Option (Nat × List Char) := do
  let n ← Decimal.value? (s.take width)
  if width ≤ s.length then some (n, s.drop width) else none

/-- The fields after the year, with the Z and nothing more. -/
def ofRest? (year : Nat) (s : List Char) : Option CalendarSecond := do
  let (month, s) ← number? 2 s
  let (day, s) ← number? 2 s
  let (hour, s) ← number? 2 s
  let (minute, s) ← number? 2 s
  let (second, s) ← number? 2 s
  let t : CalendarSecond := ⟨year, month, day, hour, minute, second⟩
  if s = ['Z'] ∧ t.isValid then some t else none

/-- The time written in a form. -/
def ofChars? (form : TimeForm) (s : List Char) : Option Timestamp :=
  match form with
  | .short => do
    let (year, s) ← number? 2 s
    let t ← ofRest? (pivot year) s
    some ⟨.short, t⟩
  | .long => do
    let (year, s) ← number? 4 s
    let t ← ofRest? year s
    some ⟨.long, t⟩

/-- The time that an element is. -/
def ofElement? (e : Element) : Option Timestamp := do
  let s ← Utf8.decode? e.contents
  if e.tag = .utcTime then ofChars? .short s
  else if e.tag = .generalizedTime then ofChars? .long s
  else none

end Timestamp

end CertRenewal.Certificate
