import CertRenewal.Number.Double

/-
  The shortest decimal text of a double: the fewest digits that read back as the same value, and
  among these the digits nearest to it. Grids of 1 to 17 digits are tried in turn, each at the
  two places next to the value; seventeen digits are always enough.
-/

namespace CertRenewal.Double

/-- The least power of ten that is above a positive ratio. -/
def decimalMagnitude (num den : Nat) : Int :=
  let guess : Int := (Decimal.digits num).length - (Decimal.digits den).length
  let (n, d) := scaleRatio 10 num den (-guess)
  if n < d then guess else guess + 1

/-- The two places of a grid next to a ratio, the nearer one first; of two equally near ones the
even one comes first. -/
def neighbours (num den : Nat) : List Nat :=
  let near := roundRatio num den
  [near, if num < near * den then near - 1 else near + 1]

/-- The digits of a positive ratio on the grid of `places` digits, and the power of ten they are
to be multiplied by, if one of them reads back as `x`. -/
def onGrid? (x : Double) (num den : Nat) (places : Nat) : Option (Nat × Int) :=
  let exponent := decimalMagnitude num den - places
  let (n, d) := scaleRatio 10 num den (-exponent)
  ((neighbours n d).find? fun c => ofDecimal false c exponent == x).map (·, exponent)

/-- The digits of a positive value and their power of ten. -/
def shortestDigits (mantissa : Nat) (exponent : Int) : Nat × Int :=
  let (num, den) := scaleRatio 2 mantissa 1 exponent
  let x := Double.finite false mantissa exponent
  (((List.range 17).findSome? fun i => onGrid? x num den (i + 1))).getD (0, 0)

/-! ## Layout -/

/-- The exponent mark of a text: a sign and at least two digits. -/
def exponentChars (e : Int) : List Char :=
  let digits := Decimal.digits e.natAbs
  'e' :: (if e < 0 then '-' else '+') :: (if digits.length < 2 then '0' :: digits else digits)

/-- Digits with a point before position `point`: positional when the point is neither more than
16 places after the first digit nor more than 3 zeros before it, and with an exponent
otherwise. -/
def layout (digits : List Char) (point : Int) : List Char :=
  if -4 < point ∧ point ≤ 16 then
    if point ≤ 0 then '0' :: '.' :: List.replicate (-point).toNat '0' ++ digits
    else
      let whole := point.toNat
      digits.take whole ++ List.replicate (whole - digits.length) '0' ++ '.' ::
        (if digits.length ≤ whole then ['0'] else digits.drop whole)
  else
    match digits with
    | [d] => d :: exponentChars (point - 1)
    | d :: rest => d :: '.' :: rest ++ exponentChars (point - 1)
    | [] => []

/-- Digits without the zeros at their end. -/
def trimZeros (digits : List Char) : List Char := (digits.reverse.dropWhile (· = '0')).reverse

/-- The shortest text of a value that reads back as it. -/
def chars : Double → List Char
  | finite negative mantissa exponent =>
    let sign := if negative then ['-'] else []
    if mantissa = 0 then sign ++ ['0', '.', '0']
    else
      let (digits, power) := shortestDigits mantissa exponent
      let digits := Decimal.digits digits
      sign ++ layout (trimZeros digits) (digits.length + power)
  | infinite negative => (if negative then "-Infinity" else "Infinity").toList
  | nan => "NaN".toList

end CertRenewal.Double
