/-
  Decimal digits of natural numbers, of free and of fixed width. Texts of times, counts and
  address parts are made of these.
-/

namespace CertRenewal.Decimal

/-- The digit of a value below ten. -/
def digit (n : Nat) : Char := Char.ofNat (48 + n)

/-- ASCII digits only. -/
def isDigit (c : Char) : Bool := 48 ≤ c.toNat && c.toNat ≤ 57

/-- The value of a digit. -/
def digitValue (c : Char) : Nat := c.toNat - 48

/-- The last `width` digits of a number. -/
def padded : Nat → Nat → List Char
  | 0, _ => []
  | width + 1, n => padded width (n / 10) ++ [digit (n % 10)]

/-- The digits of a number without leading zeros. -/
def digits (n : Nat) : List Char :=
  if n < 10 then [digit n] else digits (n / 10) ++ [digit (n % 10)]

/-- The number that a list of digits spells. -/
def value (s : List Char) : Nat := s.foldl (fun n c => n * 10 + digitValue c) 0

/-- The number spelled by a list that is not empty and holds digits only. -/
def value? (s : List Char) : Option Nat :=
  if s ≠ [] ∧ s.all isDigit then some (value s) else none

/-- The digits of an integer, with a minus sign in front of a negative one. -/
def intDigits (i : Int) : List Char :=
  if i < 0 then '-' :: digits i.natAbs else digits i.natAbs

@[simp] theorem length_padded (width n : Nat) : (padded width n).length = width := by
  induction width generalizing n with
  | zero => rfl
  | succ width ih => simp [padded, ih]

theorem isDigit_digit {n : Nat} (h : n < 10) : isDigit (digit n) = true := by
  have key : ∀ k : Fin 10, isDigit (digit k) = true := by decide
  exact key ⟨n, h⟩

theorem digitValue_digit {n : Nat} (h : n < 10) : digitValue (digit n) = n := by
  have key : ∀ k : Fin 10, digitValue (digit k) = k.val := by decide
  exact key ⟨n, h⟩

theorem digitValue_lt {c : Char} (h : isDigit c = true) : digitValue c < 10 := by
  unfold isDigit at h
  rw [Bool.and_eq_true, decide_eq_true_eq, decide_eq_true_eq] at h
  unfold digitValue
  omega

theorem digit_digitValue {c : Char} (h : isDigit c = true) : digit (digitValue c) = c := by
  unfold isDigit at h
  rw [Bool.and_eq_true, decide_eq_true_eq, decide_eq_true_eq] at h
  have value : 48 + digitValue c = c.toNat := by
    unfold digitValue
    omega
  rw [digit, value, Char.ofNat_toNat]

theorem value_append_singleton (s : List Char) (c : Char) :
    value (s ++ [c]) = value s * 10 + digitValue c := by
  simp [value]

theorem all_isDigit_padded (width n : Nat) : (padded width n).all isDigit = true := by
  induction width generalizing n with
  | zero => rfl
  | succ width ih =>
    simp [padded, ih, isDigit_digit (show n % 10 < 10 by omega)]

/-- The digits of a number spell it. -/
theorem value_digits (n : Nat) : value (digits n) = n := by
  fun_induction digits n with
  | case1 n h => simp [value, digitValue_digit h]
  | case2 n h ih => rw [value_append_singleton, ih, digitValue_digit (by omega)]; omega

end CertRenewal.Decimal
