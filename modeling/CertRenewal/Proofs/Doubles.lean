import CertRenewal.Number.Double
import Mathlib.Algebra.Order.Field.Power
import Mathlib.Data.Rat.Cast.Order
import Mathlib.Tactic.FieldSimp
import Mathlib.Tactic.Linarith
import Mathlib.Tactic.Positivity
import Mathlib.Tactic.Ring

/-
  Which double a ratio becomes. `IsForm` lists the forms of the format, the largest exponent
  apart, and `IsRounded` picks the form nearest to a ratio, of two equally near values the one
  with the even mantissa, without a word of how it is found; a ratio whose form has too large an
  exponent is infinite. Main statements: `IsNearest.unique`, a ratio has one nearest double, and
  `isNearest_ofMillionths`, a number of millionths becomes this one.
-/

namespace CertRenewal

/-! ## Whole numbers -/

/-- The whole number that is nearest to a ratio; a half away only if it is even. -/
structure IsNearestNat (x : ℚ) (k : ℕ) : Prop where
  near : |k - x| ≤ 1 / 2
  even : |k - x| = 1 / 2 → k % 2 = 0

namespace IsNearestNat

variable {x : ℚ} {k : ℕ}

/-- Two whole numbers are not both nearer than a half. -/
theorem half_le (h : IsNearestNat x k) {j : ℕ} (other : j ≠ k) : 1 / 2 ≤ |j - x| := by
  have apart : (1 : ℚ) ≤ |(j : ℚ) - k| := by
    have ne : (j : ℤ) - k ≠ 0 := sub_ne_zero.2 (Nat.cast_injective.ne other)
    exact_mod_cast Int.one_le_abs ne
  have triangle : |(j : ℚ) - k| ≤ |(j : ℚ) - x| + |(k : ℚ) - x| := by
    rw [abs_sub_comm (k : ℚ) x]
    exact abs_sub_le _ _ _
  have near := h.near
  linarith

theorem le (h : IsNearestNat x k) (j : ℕ) : |k - x| ≤ |j - x| := by
  by_cases same : j = k
  · rw [same]
  · exact h.near.trans (h.half_le same)

theorem even_of_eq (h : IsNearestNat x k) {j : ℕ} (other : j ≠ k) (tie : |k - x| = |j - x|) :
    k % 2 = 0 :=
  h.even (le_antisymm h.near (tie ▸ h.half_le other))

end IsNearestNat

theorem isNearestNat_roundRatio (num : ℕ) {den : ℕ} (positive : 0 < den) :
    IsNearestNat (num / den) (roundRatio num den) := by
  have den_pos : (0 : ℚ) < den := Nat.cast_pos.2 positive
  obtain ⟨t, ht⟩ : ∃ t : ℚ, t = ((num % den : ℕ) : ℚ) / den := ⟨_, rfl⟩
  have split_ratio : (num : ℚ) / den = (num / den : ℕ) + t := by
    rw [ht, eq_comm, eq_div_iff den_pos.ne', add_mul, div_mul_cancel₀ _ den_pos.ne']
    exact_mod_cast Nat.div_add_mod' num den
  have nonneg : 0 ≤ t := ht ▸ by positivity
  have below_iff : 2 * (num % den) < den ↔ t < 1 / 2 := by
    rw [ht, div_lt_iff₀ den_pos, ← Nat.cast_lt (α := ℚ)]
    push_cast
    constructor <;> intro h <;> linarith
  have above_iff : den < 2 * (num % den) ↔ 1 / 2 < t := by
    rw [ht, lt_div_iff₀ den_pos, ← Nat.cast_lt (α := ℚ)]
    push_cast
    constructor <;> intro h <;> linarith
  have less : t < 1 := by
    rw [ht, div_lt_one den_pos]
    exact_mod_cast Nat.mod_lt num positive
  unfold roundRatio
  dsimp only
  rw [split_ratio]
  split
  · rename_i low
    have below := below_iff.1 low
    have gap : |((num / den : ℕ) : ℚ) - ((num / den : ℕ) + t)| = t := by
      rw [sub_add_cancel_left, abs_neg, abs_of_nonneg nonneg]
    refine ⟨gap.trans_le below.le, fun half => ?_⟩
    exact absurd (gap.symm.trans half) below.ne
  · have gap : |((num / den + 1 : ℕ) : ℚ) - ((num / den : ℕ) + t)| = 1 - t := by
      rw [Nat.cast_succ, add_sub_add_left_eq_sub, abs_of_pos (sub_pos.2 less)]
    split
    · rename_i high
      have above := above_iff.1 high
      refine ⟨gap.trans_le (by linarith), fun half => ?_⟩
      rw [gap] at half
      linarith
    · rename_i low high
      have half : t = 1 / 2 :=
        le_antisymm (not_lt.1 (mt above_iff.2 high)) (not_lt.1 (mt below_iff.2 low))
      split
      · rename_i even
        refine ⟨?_, fun _ => even⟩
        rw [sub_add_cancel_left, abs_neg, abs_of_nonneg nonneg, half]
      · rename_i odd
        refine ⟨?_, fun _ => by omega⟩
        rw [gap, half]
        norm_num

/-! ## Scales -/

theorem scaleRatio_pos (num : ℕ) {den : ℕ} (positive : 0 < den) (exponent : ℤ) :
    0 < (scaleRatio 2 num den exponent).2 := by
  unfold scaleRatio
  split
  · exact positive
  · exact Nat.mul_pos positive (Nat.pow_pos Nat.two_pos)

theorem scaleRatio_div (num den : ℕ) (exponent : ℤ) :
    ((scaleRatio 2 num den exponent).1 : ℚ) / (scaleRatio 2 num den exponent).2 =
      num / den * 2 ^ exponent := by
  unfold scaleRatio
  split
  · rename_i nonneg
    obtain ⟨n, rfl⟩ := Int.eq_ofNat_of_zero_le nonneg
    simp only [Int.toNat_natCast, Nat.pow_eq, Nat.cast_mul, Nat.cast_pow,
      Nat.cast_ofNat, zpow_natCast]
    ring
  · rename_i negative
    obtain ⟨n, rfl⟩ : ∃ n : ℕ, exponent = -n := ⟨(-exponent).toNat, by omega⟩
    simp only [neg_neg, Int.toNat_natCast, Nat.pow_eq, Nat.cast_mul, Nat.cast_pow,
      Nat.cast_ofNat, zpow_neg, zpow_natCast]
    rw [← div_div, div_eq_mul_inv _ ((2 : ℚ) ^ n)]

/-- The binary logarithm of a ratio, rounded down. -/
theorem floorLog2_bounds {num den : ℕ} (hnum : 0 < num) (hden : 0 < den) :
    (2 : ℚ) ^ floorLog2 num den ≤ num / den ∧ (num : ℚ) / den < 2 ^ (floorLog2 num den + 1) := by
  obtain ⟨guess, hguess⟩ : ∃ guess : ℤ, guess = (Nat.log2 num : ℤ) - Nat.log2 den := ⟨_, rfl⟩
  have den_pos : (0 : ℚ) < den := Nat.cast_pos.2 hden
  have num_least : (2 : ℚ) ^ Nat.log2 num ≤ num := by
    exact_mod_cast Nat.log2_self_le hnum.ne'
  have num_most : (num : ℚ) < 2 ^ (Nat.log2 num + 1) := by
    exact_mod_cast Nat.lt_log2_self
  have den_least : (2 : ℚ) ^ Nat.log2 den ≤ den := by
    exact_mod_cast Nat.log2_self_le hden.ne'
  have den_most : (den : ℚ) < 2 ^ (Nat.log2 den + 1) := by
    exact_mod_cast Nat.lt_log2_self
  have least : (2 : ℚ) ^ (guess - 1) ≤ num / den := by
    rw [le_div_iff₀ den_pos]
    calc (2 : ℚ) ^ (guess - 1) * den ≤ 2 ^ (guess - 1) * 2 ^ (Nat.log2 den + 1) := by gcongr
      _ = 2 ^ Nat.log2 num := by
        rw [← zpow_natCast, ← zpow_natCast, ← zpow_add₀ two_ne_zero]
        congr 1
        push_cast
        omega
      _ ≤ num := num_least
  have most : (num : ℚ) / den < 2 ^ (guess + 1) := by
    rw [div_lt_iff₀ den_pos]
    calc (num : ℚ) < 2 ^ (Nat.log2 num + 1) := num_most
      _ = 2 ^ (guess + 1) * 2 ^ Nat.log2 den := by
        rw [← zpow_natCast, ← zpow_natCast, ← zpow_add₀ two_ne_zero]
        congr 1
        push_cast
        omega
      _ ≤ 2 ^ (guess + 1) * den := by gcongr
  have scaled_iff : (scaleRatio 2 num den (-guess)).2 ≤ (scaleRatio 2 num den (-guess)).1 ↔
      (2 : ℚ) ^ guess ≤ num / den := by
    have scaled_pos : (0 : ℚ) < (scaleRatio 2 num den (-guess)).2 :=
      Nat.cast_pos.2 (scaleRatio_pos num hden _)
    rw [← Nat.cast_le (α := ℚ), ← one_le_div scaled_pos, scaleRatio_div, zpow_neg,
      ← div_eq_mul_inv, one_le_div (by positivity)]
  unfold floorLog2
  dsimp only
  rw [← hguess]
  split
  · rename_i enough
    exact ⟨scaled_iff.1 enough, most⟩
  · rename_i less
    rw [sub_add_cancel]
    exact ⟨least, not_le.1 (mt scaled_iff.2 less)⟩

/-! ## Forms -/

namespace Double

/-- A mantissa and an exponent as the format has them: the exponent is the smallest that keeps the
mantissa whole and below 2^53. -/
structure IsForm (mantissa : ℕ) (exponent : ℤ) : Prop where
  below : mantissa < 2 ^ 53
  least : -1074 ≤ exponent
  normal : 2 ^ 52 ≤ mantissa ∨ exponent = -1074

/-- The form nearest to a ratio that is not negative. Of two different values that are equally near
it has the even mantissa. -/
structure IsRounded (q : ℚ) (mantissa : ℕ) (exponent : ℤ) : Prop where
  form : IsForm mantissa exponent
  closest : ∀ m e, IsForm m e → |mantissa * 2 ^ exponent - q| ≤ |m * 2 ^ e - q|
  even : ∀ m e, IsForm m e → (m * 2 ^ e : ℚ) ≠ mantissa * 2 ^ exponent →
    |mantissa * 2 ^ exponent - q| = |m * 2 ^ e - q| → mantissa % 2 = 0

/-- The double nearest to a ratio: its size rounded, where the exponent may be at most 971, with
its sign. -/
def IsNearest (q : ℚ) (x : Double) : Prop :=
  ∃ mantissa exponent, IsRounded |q| mantissa exponent ∧
    x = if exponent ≤ 971 then .finite (decide (q < 0)) mantissa exponent
      else .infinite (decide (q < 0))

section Rounding

variable {q : ℚ} {k m : ℕ} {e f : ℤ}

theorem abs_mul_zpow_sub (q : ℚ) (k : ℕ) (e : ℤ) :
    |(k : ℚ) * 2 ^ e - q| = |k - q * 2 ^ (-e)| * 2 ^ e := by
  have positive : (0 : ℚ) < 2 ^ e := by positivity
  rw [← abs_of_pos positive, ← abs_mul, abs_of_pos positive, sub_mul, mul_assoc, ← zpow_add₀
    two_ne_zero, neg_add_cancel, zpow_zero, mul_one]

/-- What is nearest among the multiples of a power of two is nearest among all forms: a form with a
smaller exponent is less than any ratio for which this power was chosen. -/
theorem closest_of_isNearestNat (h : IsNearestNat (q * 2 ^ (-e)) k)
    (normal : 2 ^ 52 ≤ q * 2 ^ (-e) ∨ e = -1074) (form : IsForm m f) :
    |k * 2 ^ e - q| ≤ |m * 2 ^ f - q| ∧
      ((m * 2 ^ f : ℚ) ≠ k * 2 ^ e → |k * 2 ^ e - q| = |m * 2 ^ f - q| → k % 2 = 0) := by
  have positive : (0 : ℚ) < 2 ^ e := by positivity
  rcases le_or_gt e f with larger | smaller
  · have multiple : (m * 2 ^ f : ℚ) = (m * 2 ^ (f - e).toNat : ℕ) * 2 ^ e := by
      obtain ⟨n, rfl⟩ : ∃ n : ℕ, f = n + e := ⟨(f - e).toNat, by omega⟩
      rw [add_sub_cancel_right, Int.toNat_natCast, zpow_add₀ two_ne_zero, zpow_natCast]
      push_cast
      ring
    rw [multiple, abs_mul_zpow_sub, abs_mul_zpow_sub]
    refine ⟨mul_le_mul_of_nonneg_right (h.le _) positive.le, fun other tie => ?_⟩
    refine h.even_of_eq (fun same => other ?_) (mul_right_cancel₀ positive.ne' tie)
    rw [same]
  · have chosen : 2 ^ 52 ≤ q * 2 ^ (-e) := by
      rcases normal with chosen | least
      · exact chosen
      · exact absurd form.least (by omega)
    have enough : (2 ^ 52 : ℚ) * 2 ^ e ≤ q := by
      rwa [zpow_neg, ← div_eq_mul_inv, le_div_iff₀ positive] at chosen
    have less : (m * 2 ^ f : ℚ) < 2 ^ 52 * 2 ^ e := by
      have mantissa : (m : ℚ) < 2 ^ 53 := by exact_mod_cast form.below
      calc (m * 2 ^ f : ℚ) < 2 ^ 53 * 2 ^ f := by gcongr
        _ ≤ 2 ^ 53 * 2 ^ (e - 1) := by
          gcongr
          · norm_num
          · omega
        _ = 2 ^ 52 * 2 ^ e := by
          rw [zpow_sub_one₀ two_ne_zero]
          ring
    have nearer : |k * 2 ^ e - q| < |m * 2 ^ f - q| := by
      have first := h.le (2 ^ 52)
      have scaled := mul_le_mul_of_nonneg_right first positive.le
      rw [← abs_mul_zpow_sub, ← abs_mul_zpow_sub] at scaled
      refine scaled.trans_lt ?_
      push_cast
      rw [abs_of_nonpos (by linarith), abs_of_neg (by linarith)]
      linarith
    exact ⟨nearer.le, fun _ tie => absurd tie nearer.ne⟩

/-- The form of a rounded mantissa, which may have become too large by one. -/
theorem isRounded_of_isNearestNat (h : IsNearestNat (q * 2 ^ (-e)) k) (least : -1074 ≤ e)
    (below : q * 2 ^ (-e) < 2 ^ 53) (normal : 2 ^ 52 ≤ q * 2 ^ (-e) ∨ e = -1074) :
    if k = 2 ^ 53 then IsRounded q (2 ^ 52) (e + 1) else IsRounded q k e := by
  have closest := fun m f (form : IsForm m f) => closest_of_isNearestNat h normal form
  have near := abs_le.1 h.near
  split
  · rename_i full
    have value : ((2 ^ 52 : ℕ) : ℚ) * 2 ^ (e + 1) = k * 2 ^ e := by
      rw [full, zpow_add_one₀ two_ne_zero]
      push_cast
      ring
    refine ⟨⟨by norm_num, by omega, .inl le_rfl⟩, ?_, fun _ _ _ _ _ => by norm_num⟩
    intro m f form
    rw [value]
    exact (closest m f form).1
  · rename_i fits
    have most : k < 2 ^ 53 + 1 := by
      have : (k : ℚ) < (2 ^ 53 + 1 : ℕ) := by
        push_cast
        linarith [near.2]
      exact_mod_cast this
    refine ⟨⟨by omega, least, normal.imp_left fun chosen => ?_⟩, fun m f form =>
      (closest m f form).1, fun m f form => (closest m f form).2⟩
    have enough : ((2 ^ 52 : ℕ) : ℚ) < (k + 1 : ℕ) := by
      push_cast
      linarith [near.1]
    exact Nat.lt_succ_iff.1 (by exact_mod_cast enough)

end Rounding

section Forms

variable {q : ℚ} {m n : ℕ} {e f : ℤ}

/-- A larger exponent is that of a larger value. -/
theorem IsForm.value_lt (h : IsForm m e) (h' : IsForm n f) (less : e < f) :
    (m * 2 ^ e : ℚ) < n * 2 ^ f := by
  have small : (m : ℚ) < 2 ^ 53 := by exact_mod_cast h.below
  have large : (2 ^ 52 : ℚ) ≤ n := by
    have normal : 2 ^ 52 ≤ n := h'.normal.resolve_right (by have := h.least; omega)
    exact_mod_cast normal
  calc (m * 2 ^ e : ℚ) < 2 ^ 53 * 2 ^ e := by gcongr
    _ = 2 ^ 52 * 2 ^ (e + 1) := by
      rw [zpow_add_one₀ two_ne_zero]
      ring
    _ ≤ 2 ^ 52 * 2 ^ f := by
      gcongr
      · norm_num
      · omega
    _ ≤ n * 2 ^ f := by gcongr

/-- No two forms have one value. -/
theorem IsForm.inj (h : IsForm m e) (h' : IsForm n f) (same : (m * 2 ^ e : ℚ) = n * 2 ^ f) :
    m = n ∧ e = f := by
  rcases lt_trichotomy e f with less | rfl | more
  · exact absurd same (h.value_lt h' less).ne
  · have power : (2 : ℚ) ^ e ≠ 0 := by positivity
    exact ⟨Nat.cast_injective (mul_right_cancel₀ power same), rfl⟩
  · exact absurd same (h'.value_lt h more).ne'

/-- One more unit in the last place is the value of a form again. -/
theorem IsForm.exists_next (h : IsForm m e) :
    ∃ n f, IsForm n f ∧ (n * 2 ^ f : ℚ) = (m + 1) * 2 ^ e := by
  by_cases full : m + 1 = 2 ^ 53
  · have value : (m : ℚ) + 1 = 2 ^ 53 := by exact_mod_cast full
    refine ⟨2 ^ 52, e + 1, ⟨by norm_num, by have := h.least; omega, .inl le_rfl⟩, ?_⟩
    rw [value, zpow_add_one₀ two_ne_zero]
    push_cast
    ring
  · refine ⟨m + 1, e, ⟨?_, h.least, h.normal.imp_left fun normal => by omega⟩, by push_cast; rfl⟩
    have := h.below
    omega

/-- No rounded value is above another: two that are equally near have a value between them, unless
they follow one another, and then they are not both even. -/
theorem IsRounded.value_le (h : IsRounded q m e) (h' : IsRounded q n f) :
    (n * 2 ^ f : ℚ) ≤ m * 2 ^ e := by
  by_contra above
  rw [not_le] at above
  have tie := le_antisymm (h.closest n f h'.form) (h'.closest m e h.form)
  have even := h.even n f h'.form above.ne' tie
  have even' := h'.even m e h.form above.ne tie.symm
  have order : e ≤ f := not_lt.1 fun less => (h'.form.value_lt h.form less).not_gt above
  have power : (0 : ℚ) < 2 ^ e := by positivity
  obtain ⟨k, rfl⟩ : ∃ k : ℕ, f = k + e := ⟨(f - e).toNat, by omega⟩
  have multiple : (n * 2 ^ (k + e) : ℚ) = (n * 2 ^ k : ℕ) * 2 ^ e := by
    rw [zpow_add₀ two_ne_zero, zpow_natCast]
    push_cast
    ring
  have middle : 2 * q = m * 2 ^ e + n * 2 ^ (k + e) := by
    rcases abs_eq_abs.1 tie with same | opposite
    · linarith
    · linarith
  have least : m + 1 ≤ n * 2 ^ k := by
    rw [multiple] at above
    exact_mod_cast (mul_lt_mul_iff_left₀ power).1 above
  rcases least.eq_or_lt with next | more
  · cases k with
    | zero =>
      rw [pow_zero, mul_one] at next
      omega
    | succ k =>
      rw [pow_succ, ← mul_assoc] at next
      omega
  · obtain ⟨m', e', form, value⟩ := h.form.exists_next
    have between : ((m : ℚ) + 1) * 2 ^ e < n * 2 ^ (k + e) := by
      rw [multiple]
      gcongr
      exact_mod_cast more
    have nearer : |((m : ℚ) + 1) * 2 ^ e - q| < |m * 2 ^ e - q| := by
      rw [abs_of_neg (by linarith : (m * 2 ^ e - q : ℚ) < 0), abs_lt]
      constructor <;> linarith
    exact absurd (value ▸ h.closest m' e' form) nearer.not_ge

theorem IsRounded.unique (h : IsRounded q m e) (h' : IsRounded q n f) : m = n ∧ e = f :=
  h.form.inj h'.form (le_antisymm (h'.value_le h) (h.value_le h'))

/-- Only one double is the nearest. -/
theorem IsNearest.unique {x y : Double} (h : IsNearest q x) (h' : IsNearest q y) : x = y := by
  obtain ⟨m, e, rounded, rfl⟩ := h
  obtain ⟨n, f, rounded', rfl⟩ := h'
  obtain ⟨rfl, rfl⟩ := rounded.unique rounded'
  rfl

end Forms

/-- Scaled by the power of two that is chosen for it, a ratio has a whole part of 53 bits, or of
fewer if the power is the smallest. -/
theorem scaled_bounds {num den : ℕ} (nonzero : num ≠ 0) (positive : 0 < den) {e : ℤ}
    (he : e = max minExponent (floorLog2 num den - 52)) :
    -1074 ≤ e ∧ (num : ℚ) / den * 2 ^ (-e) < 2 ^ 53 ∧
      (2 ^ 52 ≤ (num : ℚ) / den * 2 ^ (-e) ∨ e = -1074) := by
  obtain ⟨least, most⟩ := floorLog2_bounds (Nat.pos_of_ne_zero nonzero) positive
  have power : (0 : ℚ) < 2 ^ e := by positivity
  refine ⟨he ▸ le_max_left _ _, ?_, ?_⟩
  · rw [zpow_neg, ← div_eq_mul_inv, div_lt_iff₀ power, ← zpow_natCast, ← zpow_add₀ two_ne_zero]
    refine most.trans_le (zpow_le_zpow_right₀ one_le_two ?_)
    have := le_max_right minExponent (floorLog2 num den - 52)
    push_cast
    omega
  · rcases le_total minExponent (floorLog2 num den - 52) with far | near
    · rw [max_eq_right far] at he
      refine .inl ?_
      rw [zpow_neg, ← div_eq_mul_inv, le_div_iff₀ power, ← zpow_natCast, ← zpow_add₀ two_ne_zero]
      refine (zpow_le_zpow_right₀ one_le_two ?_).trans least
      push_cast
      omega
    · rw [max_eq_left near] at he
      exact .inr he

/-- A ratio becomes the value nearest to it. -/
theorem exists_isRounded_ofRatio (negative : Bool) (num : ℕ) {den : ℕ} (positive : 0 < den) :
    ∃ mantissa exponent, IsRounded (num / den) mantissa exponent ∧
      ofRatio negative num den =
        if exponent ≤ 971 then .finite negative mantissa exponent else .infinite negative := by
  unfold ofRatio
  split
  · rename_i zero
    refine ⟨0, -1074, ⟨⟨by norm_num, le_rfl, .inr rfl⟩, ?_, fun _ _ _ _ _ => rfl⟩, rfl⟩
    intro m f form
    have nonneg : (0 : ℚ) ≤ m * 2 ^ f := by positivity
    simpa [zero] using nonneg
  · rename_i nonzero
    obtain ⟨e, he⟩ : ∃ e, e = max minExponent (floorLog2 num den - 52) := ⟨_, rfl⟩
    have nearest : IsNearestNat ((num : ℚ) / den * 2 ^ (-e))
        (roundRatio (scaleRatio 2 num den (-e)).1 (scaleRatio 2 num den (-e)).2) := by
      rw [← scaleRatio_div]
      exact isNearestNat_roundRatio _ (scaleRatio_pos num positive _)
    obtain ⟨low, below, normal⟩ := scaled_bounds nonzero positive he
    have rounded := isRounded_of_isNearestNat nearest low below normal
    dsimp only
    rw [← he]
    generalize roundRatio (scaleRatio 2 num den (-e)).1 (scaleRatio 2 num den (-e)).2 = k
      at rounded
    have shift : ∀ n, (1 <<< n : ℕ) = 2 ^ n := Nat.one_shiftLeft
    rw [shift, shift]
    split at rounded
    · rename_i full
      refine ⟨_, _, rounded, ?_⟩
      rw [if_pos full]
      dsimp only
      unfold maxExponent
      split <;> split <;> first | rfl | omega
    · rename_i fits
      refine ⟨_, _, rounded, ?_⟩
      rw [if_neg fits]
      dsimp only
      unfold maxExponent
      split <;> split <;> first | rfl | omega

/-- A number of millionths becomes the double nearest to it. -/
theorem isNearest_ofMillionths (n : ℤ) : IsNearest (n / 1000000) (ofMillionths n) := by
  have size : |(n : ℚ) / 1000000| = (n.natAbs : ℚ) / (1000000 : ℕ) := by
    rw [abs_div, Nat.cast_natAbs, Int.cast_abs]
    norm_num
  have sign : decide ((n : ℚ) / 1000000 < 0) = decide (n < 0) := by
    refine decide_eq_decide.2 ?_
    rw [div_lt_iff₀ (by norm_num), zero_mul, Int.cast_lt_zero]
  obtain ⟨mantissa, exponent, rounded, same⟩ :=
    exists_isRounded_ofRatio (n < 0) n.natAbs (show 0 < 1000000 by norm_num)
  refine ⟨mantissa, exponent, ?_, ?_⟩
  · rw [size]
    exact rounded
  · rw [sign]
    exact same

end Double

end CertRenewal
