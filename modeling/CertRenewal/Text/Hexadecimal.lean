import CertRenewal.Bytes

/-
  Hexadecimal numbers: digits of either case are read, lower-case ones are written, and a number
  is written without leading zeros.
-/

namespace CertRenewal.Hexadecimal

/-- The value of a digit of either case. -/
def digitValue? (c : Char) : Option Nat :=
  let n := c.toNat
  if 48 ≤ n ∧ n ≤ 57 then some (n - 48)
  else if 97 ≤ n ∧ n ≤ 102 then some (n - 87)
  else if 65 ≤ n ∧ n ≤ 70 then some (n - 55)
  else none

/-- Reads on a number of which `value` has been read. -/
def valueFrom? (value : Nat) : List Char → Option Nat
  | [] => some value
  | c :: s => do
    let d ← digitValue? c
    valueFrom? (value * 16 + d) s

/-- The number spelled by a list of digits that is not empty. -/
def value? (s : List Char) : Option Nat := if s = [] then none else valueFrom? 0 s

/-- The digits of a number. -/
def digits (n : Nat) : List Char :=
  if n < 16 then [Bytes.hexDigit n] else digits (n / 16) ++ [Bytes.hexDigit (n % 16)]

end CertRenewal.Hexadecimal
