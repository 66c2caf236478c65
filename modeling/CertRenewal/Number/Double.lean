import CertRenewal.Text.Decimal

/-
  Numbers of the double format: a sign, a mantissa below 2^53 and a power of two, and the values
  that are no numbers. Every finite value has one form here, the one with the smallest exponent
  that keeps the mantissa whole and below 2^53, so that equality of values is equality of forms
  (the two zeros apart). A ratio becomes the nearest value; of two equally near ones it is the
  one with the even mantissa.
-/

namespace CertRenewal

/-- A value of the double format; a finite one is the mantissa times a power of two. -/
inductive Double where
  | finite (negative : Bool) (mantissa : Nat) (exponent : Int)
  | infinite (negative : Bool)
  | nan
deriving DecidableEq, Repr

/-! ## Ratios -/

/-- The whole number nearest to a ratio; a half goes to the even one. -/
def roundRatio (num den : Nat) : Nat :=
  let whole := num / den
  let twice := 2 * (num % den)
  if twice < den then whole
  else if den < twice then whole + 1
  else if whole % 2 = 0 then whole else whole + 1

/-- A ratio times a whole power of a base, as a ratio again. -/
def scaleRatio (base num den : Nat) (exponent : Int) : Nat × Nat :=
  if 0 ≤ exponent then (num * base.pow exponent.toNat, den)
  else (num, den * base.pow (-exponent).toNat)

/-- The whole part of the binary logarithm of a positive ratio. -/
def floorLog2 (num den : Nat) : Int :=
  let guess : Int := (Nat.log2 num : Int) - Nat.log2 den
  let (n, d) := scaleRatio 2 num den (-guess)
  if d ≤ n then guess else guess - 1

namespace Double

/-- The smallest exponent. -/
def minExponent : Int := -1074

/-- The largest exponent. -/
def maxExponent : Int := 971

/-- The zero of a sign. -/
def zero (negative : Bool) : Double := .finite negative 0 minExponent

/-- The value nearest to a ratio. -/
def ofRatio (negative : Bool) (num den : Nat) : Double :=
  if num = 0 then zero negative
  else
    let exponent := max minExponent (floorLog2 num den - 52)
    let (n, d) := scaleRatio 2 num den (-exponent)
    let mantissa := roundRatio n d
    let (mantissa, exponent) :=
      if mantissa = 1 <<< 53 then (1 <<< 52, exponent + 1) else (mantissa, exponent)
    if maxExponent < exponent then .infinite negative else .finite negative mantissa exponent

/-- The value nearest to a whole number of millionths. -/
def ofMillionths (n : Int) : Double := ofRatio (n < 0) n.natAbs 1000000

/-- The value nearest to a number with the given digits times a power of ten. Powers so far out
that the value is zero or infinite are not worked out. -/
def ofDecimal (negative : Bool) (digits : Nat) (exponent : Int) : Double :=
  let magnitude := (Decimal.digits digits).length + exponent
  if digits = 0 ∨ magnitude < -400 then zero negative
  else if 400 < magnitude then .infinite negative
  else
    let (n, d) := scaleRatio 10 digits 1 exponent
    ofRatio negative n d

/-- The whole number that a value is, if it is one. -/
def int? : Double → Option Int
  | finite negative mantissa exponent =>
    let (n, d) := scaleRatio 2 mantissa 1 exponent
    if n % d = 0 then some (if negative then -(n / d : Nat) else (n / d : Nat)) else none
  | _ => none

/-- Whether a value is a number. -/
def isFinite : Double → Bool
  | finite _ _ _ => true
  | _ => false

end Double

end CertRenewal
