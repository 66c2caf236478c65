import CertRenewal.Bytes
import CertRenewal.Pieces
import CertRenewal.Text.Blank
import CertRenewal.Text.Case
import CertRenewal.Validation.Basic

/-
  What counts as a text, an integer or a flag. Texts have to be texts, and no broken ones where
  anything is asked about them. Integers and flags may also be written as texts, and each may stand
  for the other where the value is the same.
-/

namespace CertRenewal.Validation

/-! ## Texts -/

/-- A text of any kind. -/
def wideText : Json → Except Problem Wide
  | .text s => .ok s
  | .broken b => .ok (.broken b)
  | _ => .error .notText

/-- A text that is not broken. -/
def text : Json → Except Problem String
  | .text s => .ok s
  | .broken _ => .error .brokenText
  | _ => .error .notText

/-- A text of a number of characters within bounds. -/
def boundedText (least most : Nat) (v : Json) : Except Problem String := do
  let s ← text v
  if s.length < least then .error (.tooShort least)
  else if most < s.length then .error (.tooLong most)
  else .ok s

/-! ## Integers -/

/-- The most digits of an integer that is written as a text. -/
def maxIntegerDigits : Nat := 4300

/-- A zero or an underscore, of which any number may stand behind a zero in front of a number. -/
def isPadding (c : Char) : Bool := c = '0' || c = '_'

/-- A number, which begins with a digit, without the padding in front of it. Of padding before a
point, or with nothing behind it, the last character stays; padding before a minus sign falls
away too. -/
def dropPadding? : List Char → Option (List Char)
  | '0' :: rest =>
    let last := ((rest.takeWhile isPadding).getLast?).getD '0'
    match rest.dropWhile isPadding with
    | [] => some [last]
    | '.' :: rest => some (last :: '.' :: rest)
    | c :: rest => if Decimal.isDigit c || c = '-' then some (c :: rest) else none
  | c :: rest => if Decimal.isDigit c then some (c :: rest) else none
  | [] => none

/-- A number without a point that has nothing but zeros behind it, and at least one. -/
def dropZeroFraction (s : List Char) : List Char :=
  match cut? ['.'] s with
  | some (whole, zeros) => if zeros ≠ [] ∧ zeros.all (· = '0') then whole else s
  | none => s

/-- A text without its underscores, which may stand one by one inside it. -/
def ungrouped? (s : List Char) : Option (List Char) :=
  let groups := Pieces.splitAt '_' s
  if groups.all (· ≠ []) then some groups.flatten else none

/-- The integer that digits spell, perhaps behind a minus sign and with no zero too many in
front. There must not be too many digits, whatever may follow them. -/
def plainInteger (s : List Char) : Except Problem Int :=
  let (sign, rest) := s.span (· = '-')
  let digits := rest.takeWhile Decimal.isDigit
  if 1 < sign.length ∨ digits = [] then .error .unreadableInteger
  else if digits.head? = some '0' then
    if rest = ['0'] then .ok 0 else .error .unreadableInteger
  else if maxIntegerDigits < digits.length then .error .oversizedInteger
  else if rest = digits then
    .ok (if sign = [] then Decimal.value digits else -Decimal.value digits)
  else .error .unreadableInteger

/-- A number without padding, fraction and underscores. -/
def plainNumber? (s : List Char) : Option (List Char) :=
  (dropPadding? s).bind fun s => ungrouped? (dropZeroFraction s)

/-- What remains of a text without the white space around it and without what a number may do
without: padding, fraction, underscores and a plus sign. -/
def plainText? (s : List Char) : Option (List Char) :=
  match Text.trimList Text.isWhiteSpace s with
  | '-' :: rest => (plainNumber? rest).map ('-' :: ·)
  | '+' :: rest => plainNumber? rest
  | rest => plainNumber? rest

/-- The integer that a text spells, as it stands or else once it is plain. Only of a text as it
stands is it said that it has too many digits. -/
def integerOfText (s : String) : Except Problem Int :=
  match plainInteger s.toList, (plainText? s.toList).map plainInteger with
  | .ok i, _ => .ok i
  | .error .oversizedInteger, _ => .error .oversizedInteger
  | .error _, some (.ok i) => .ok i
  | .error _, _ => .error .unreadableInteger

/-- The least integer of 64 bits, and the one after the largest. -/
def leastWord : Int := -9223372036854775808
def wordBound : Int := 9223372036854775808

/-- Integers of 64 bits, the least one apart: those that a double may stand for. -/
def isWordSized (i : Int) : Bool := leastWord < i && i < wordBound

/-- An integer: a flag counts as 0 or 1, a double has to be whole and not too large. -/
def integer : Json → Except Problem Int
  | .int i => .ok i
  | .bool b => .ok (if b then 1 else 0)
  | .real x =>
    match x.int? with
    | some i => if isWordSized i then .ok i else .error .oversizedInteger
    | none => .error (if x.isFinite then .fractionalInteger else .infiniteInteger)
  | .text s => integerOfText s
  | .broken _ => .error .brokenText
  | _ => .error .notInteger

/-! ## Flags -/

/-- The texts that mean yes, in any case. -/
def yesTexts : List String := ["1", "t", "y", "on", "yes", "true"]

/-- The texts that mean no, in any case. -/
def noTexts : List String := ["0", "f", "n", "off", "no", "false"]

/-- The flag that an integer stands for. One that does not fit in 64 bits is nothing like a
flag. -/
def flagOfInteger (i : Int) : Except Problem Bool :=
  if i = 0 then .ok false
  else if i = 1 then .ok true
  else .error (if isWordSized i || i = leastWord then .unreadableFlag else .notFlag)

/-- A flag. -/
def flag : Json → Except Problem Bool
  | .bool b => .ok b
  | .int i => flagOfInteger i
  | .real x =>
    match x.int? with
    | some i => if isWordSized i then flagOfInteger i else .error .notFlag
    | none => .error .notFlag
  | .text s =>
    if yesTexts.any (Text.equalIgnoringAsciiCase s) then .ok true
    else if noTexts.any (Text.equalIgnoringAsciiCase s) then .ok false
    else .error .unreadableFlag
  | .broken _ => .error .brokenText
  | _ => .error .notFlag

/-- A value that may be null. -/
def nullable {α : Type} (check : Json → Except Problem α) : Json → Except Problem (Option α)
  | .null => .ok none
  | v => (check v).map some

end CertRenewal.Validation
