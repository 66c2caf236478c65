import CertRenewal.Rsa.Source
import CertRenewal.Sha256

/-
  Making keys. The two primes are looked for from starting points that a seed gives, upwards in
  steps of two; a seed from a random source makes a random key, and one seed always makes the
  same key. Every factor is checked with strong tests to several bases, after its remainders by
  small primes. The two highest bits of each prime are set, so that the product has exactly the
  demanded size.
-/

namespace CertRenewal.Rsa

/-- The public exponent of every key that is made here. -/
def publicExponent : Nat := 65537

/-! ## Primes -/

/-- The odd primes below a hundred, by which candidates are divided before any test. -/
def smallPrimes : List Nat :=
  [3, 5, 7, 11, 13, 17, 19, 23, 29, 31, 37, 41, 43, 47, 53, 59, 61, 67, 71, 73, 79, 83, 89, 97]

/-- Writes a number as a power of two times an odd number, with at most `fuel` halvings. -/
def splitTwos : Nat → Nat → Nat × Nat
  | 0, n => (0, n)
  | fuel + 1, n =>
    if n ≠ 0 ∧ n % 2 = 0 then
      let (twos, odd) := splitTwos fuel (n / 2)
      (twos + 1, odd)
    else (0, n)

/-- Whether squaring at most `steps` times leads from `x` to the number before `n`. -/
def reachesMinusOne (n : Nat) : Nat → Nat → Bool
  | 0, _ => false
  | steps + 1, x => x == n - 1 || reachesMinusOne n steps (x * x % n)

/-- Whether `n` passes the strong test to a base, where `n - 1` is `2 ^ twos * odd`. -/
def isStrongProbable (n twos odd base : Nat) : Bool :=
  let x := powMod base odd n
  x == 1 || reachesMinusOne n twos x

/-- Whether an odd number above a hundred is in all likelihood a prime. -/
def isProbablePrime (n : Nat) : Bool :=
  smallPrimes.all (n % · != 0) &&
    let (twos, odd) := splitTwos n.log2 (n - 1)
    (2 :: smallPrimes).all (isStrongProbable n twos odd)

/-- The first number from `n` on, in at most `fuel` steps of two, that is in all likelihood a
prime and fits the public exponent. -/
def searchPrime : Nat → Nat → Option Nat
  | 0, _ => none
  | fuel + 1, n =>
    if (n - 1) % publicExponent ≠ 0 && isProbablePrime n then some n else searchPrime fuel (n + 2)

/-! ## Starting points -/

/-- As many bytes as demanded, from the digests of the seed with a counter. -/
def stretch (seed : Bytes) (size : Nat) : Bytes :=
  ((List.range (size / 32 + 1)).flatMap fun i =>
    Sha256.digest (seed ++ Bytes.ofNatWidth 4 i)).take size

/-- An odd number of exactly `bits` bits whose two highest bits are set. -/
def startingPoint (seed : Bytes) (bits : Nat) : Nat :=
  let n := (stretch seed (bits / 8 + 1)).toNat % (1 <<< (bits - 2))
  (1 <<< (bits - 1)) + (1 <<< (bits - 2)) + n / 2 * 2 + 1

/-- A prime of exactly `bits` bits. -/
def prime? (seed : Bytes) (bits : Nat) : Option Nat := do
  let p ← searchPrime (bits * 64) (startingPoint seed bits)
  if p < 1 <<< bits then some p else none

/-- A key whose modulus has exactly `bits` bits. -/
def generate? (seed : Bytes) (bits : Nat) : Option PrivateKey := do
  let p ← prime? (0 :: seed) (bits - bits / 2)
  let q ← prime? (1 :: seed) (bits / 2)
  if p = q then none
  else some ⟨p, q, inverseMod publicExponent (Nat.lcm (p - 1) (q - 1)), publicExponent⟩

/-- A source that makes its key from a seed; sizes that are refused anyway are not tried. -/
def KeySource.ofSeed (seed : Bytes) (bits : Int) : KeySource :=
  if bits < minKeyBits then .ready none
  else
    match generate? seed bits.toNat with
    | some k => .ready (some k)
    | none => .broken "no primes found"

end CertRenewal.Rsa
