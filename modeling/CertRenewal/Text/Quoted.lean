import CertRenewal.Bytes
import CertRenewal.Text.Case
import CertRenewal.Text.PrintTable

/-
  Quoted texts, as error messages show a value that was not understood. The quote is the single
  one unless the text holds single quotes and no double ones. The backslash, the quote and the
  three usual control characters are written with a backslash, and any other character that is
  not printable by its code point in two, four or eight hexadecimal digits.
-/

namespace CertRenewal.Text

/-- Whether a character may stand for itself in a quoted text. -/
def isPrintable (c : Char) : Bool := !inRanges unprintableRanges c.toNat

/-- The last `digits` hexadecimal digits of a number, lower case. -/
def hexDigits : Nat → Nat → List Char
  | 0, _ => []
  | digits + 1, n => hexDigits digits (n / 16) ++ [Bytes.hexDigit (n % 16)]

/-- One character inside quotes. -/
def quotedChar (quote c : Char) : List Char :=
  if c = quote || c = '\\' then ['\\', c]
  else if c = '\t' then ['\\', 't']
  else if c = '\n' then ['\\', 'n']
  else if c = '\r' then ['\\', 'r']
  else if isPrintable c then [c]
  else if c.toNat < 0x100 then '\\' :: 'x' :: hexDigits 2 c.toNat
  else if c.toNat < 0x10000 then '\\' :: 'u' :: hexDigits 4 c.toNat
  else '\\' :: 'U' :: hexDigits 8 c.toNat

/-- The quote that is put around a text. -/
def quoteFor (s : List Char) : Char :=
  if s.contains '\'' && !s.contains '"' then '"' else '\''

/-- A text in quotes. -/
def quoted (s : String) : String :=
  let quote := quoteFor s.toList
  String.ofList (quote :: s.toList.flatMap (quotedChar quote) ++ [quote])

end CertRenewal.Text
