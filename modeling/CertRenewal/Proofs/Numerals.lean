import CertRenewal.Text.Decimal
import CertRenewal.Text.Hexadecimal
import Mathlib.Data.Nat.Digits.Lemmas

/-
  Numerals of either base. `IsNumeral` says which number a row of digits stands for, by the places
  that its characters have in the row of all digits and without a word on how one reads. The two
  readers accept exactly the numerals of their base, at their numbers; the two writers write one,
  with as many digits as the number needs.
-/

namespace CertRenewal

/-- A row of digits, the most significant first, and the number it stands for. What a digit is, and
what it is worth, is said by `digit`. -/
def IsNumeral (digit : Char → Nat → Prop) (base : Nat) (s : List Char) (n : Nat) : Prop :=
  ∃ values, List.Forall₂ digit s values ∧ n = Nat.ofDigits base values.reverse

/-- The decimal digits, each at the place of its value. -/
def Decimal.IsDigitOf (c : Char) (value : Nat) : Prop := "0123456789".toList[value]? = some c

/-- The hexadecimal digits of either case. -/
def Hexadecimal.IsDigitOf (c : Char) (value : Nat) : Prop :=
  "0123456789abcdef".toList[value]? = some c ∨ "0123456789ABCDEF".toList[value]? = some c

/-! ## Values -/

/-- The number of a row of values is found by going through it once. -/
theorem ofDigits_reverse_eq_foldl (base : Nat) (values : List Nat) :
    Nat.ofDigits base values.reverse = values.foldl (fun n d => n * base + d) 0 := by
  have step : (fun n d : Nat => ((d : Nat) : Nat) + base * n) = fun n d => n * base + d := by
    funext n d
    rw [Nat.mul_comm, Nat.add_comm]
  rw [Nat.ofDigits_eq_foldr, List.foldr_reverse]
  exact congrArg (fun f => values.foldl f 0) step

/-- In two rows that are related place by place, every element has one that it is related to. -/
theorem exists_of_forall₂ {α β : Type} {R : α → β → Prop} {l : List α} {m : List β} {a : α}
    (h : List.Forall₂ R l m) (ha : a ∈ l) : ∃ b ∈ m, R a b := by
  induction h with
  | nil => cases ha
  | cons first _ ih =>
    rcases List.mem_cons.1 ha with rfl | ha
    · exact ⟨_, List.mem_cons_self, first⟩
    · obtain ⟨b, hb, related⟩ := ih ha
      exact ⟨b, List.mem_cons_of_mem _ hb, related⟩

/-- Every character of a numeral is a digit. -/
theorem IsNumeral.exists_value {digit : Char → Nat → Prop} {base n : Nat} {s : List Char} {c : Char}
    (h : IsNumeral digit base s n) (hc : c ∈ s) : ∃ d, digit c d := by
  obtain ⟨values, rows, -⟩ := h
  obtain ⟨d, -, hd⟩ := exists_of_forall₂ rows hc
  exact ⟨d, hd⟩

/-- A numeral stands for a number below the power of the base that its length names. -/
theorem IsNumeral.lt_pow {digit : Char → Nat → Prop} {base n : Nat} {s : List Char}
    (h : IsNumeral digit base s n) (hb : 1 < base) (hd : ∀ c d, digit c d → d < base) :
    n < base ^ s.length := by
  obtain ⟨values, rows, rfl⟩ := h
  have small : ∀ d ∈ values.reverse, d < base := by
    intro d mem
    have flipped : List.Forall₂ (flip digit) values s := List.Forall₂.flip rows
    obtain ⟨c, -, hc⟩ := exists_of_forall₂ flipped (List.mem_reverse.1 mem)
    exact hd c d hc
  rw [rows.length_eq, ← List.length_reverse]
  exact Nat.ofDigits_lt_base_pow_length hb small

/-- Two numerals written one behind the other: the first counts as often as the second has places. -/
theorem IsNumeral.append {digit : Char → Nat → Prop} {base m n : Nat} {s t : List Char}
    (hs : IsNumeral digit base s m) (ht : IsNumeral digit base t n) :
    IsNumeral digit base (s ++ t) (m * base ^ t.length + n) := by
  obtain ⟨values, rows, rfl⟩ := hs
  obtain ⟨more, rows', rfl⟩ := ht
  refine ⟨values ++ more, List.rel_append rows rows', ?_⟩
  rw [List.reverse_append, Nat.ofDigits_append, List.length_reverse, rows'.length_eq, Nat.add_comm,
    Nat.mul_comm]

/-! ## Reading -/

namespace Decimal

theorem isDigitOf_digit {d : Nat} (h : d < 10) : IsDigitOf (digit d) d := by
  have row : ∀ k : Fin 10, "0123456789".toList[k.val]? = some (digit k) := by decide
  exact row ⟨d, h⟩

theorem isDigitOf_iff {c : Char} {d : Nat} : IsDigitOf c d ↔ isDigit c = true ∧ d = digitValue c := by
  constructor
  · intro h
    have bound : d < 10 := (List.getElem?_eq_some_iff.1 h).1
    obtain rfl : digit d = c := Option.some.inj ((isDigitOf_digit bound).symm.trans h)
    exact ⟨isDigit_digit bound, (digitValue_digit bound).symm⟩
  · rintro ⟨hc, rfl⟩
    have row := isDigitOf_digit (digitValue_lt hc)
    rwa [digit_digitValue hc] at row

theorem forall₂_isDigitOf_iff {s : List Char} {values : List Nat} :
    List.Forall₂ IsDigitOf s values ↔ s.all isDigit = true ∧ values = s.map digitValue := by
  induction s generalizing values with
  | nil => simp
  | cons c s ih =>
    rw [List.forall₂_cons_left_iff, List.all_cons, Bool.and_eq_true, List.map_cons]
    constructor
    · rintro ⟨d, ds, first, rest, rfl⟩
      obtain ⟨hc, rfl⟩ := isDigitOf_iff.1 first
      obtain ⟨hs, rfl⟩ := ih.1 rest
      exact ⟨⟨hc, hs⟩, rfl⟩
    · rintro ⟨⟨hc, hs⟩, rfl⟩
      exact ⟨_, _, isDigitOf_iff.2 ⟨hc, rfl⟩, ih.2 ⟨hs, rfl⟩, rfl⟩

/-- The reader accepts the numerals, at their numbers. -/
theorem value?_eq_some_iff {s : List Char} {n : Nat} :
    value? s = some n ↔ s ≠ [] ∧ IsNumeral IsDigitOf 10 s n := by
  have number : Nat.ofDigits 10 (s.map digitValue).reverse = value s := by
    rw [ofDigits_reverse_eq_foldl, List.foldl_map]
    rfl
  unfold value? IsNumeral
  constructor
  · intro h
    split at h
    · rename_i digits
      obtain rfl := Option.some.inj h
      exact ⟨digits.1, _, forall₂_isDigitOf_iff.2 ⟨digits.2, rfl⟩, number.symm⟩
    · cases h
  · rintro ⟨hs, values, rows, rfl⟩
    obtain ⟨digits, rfl⟩ := forall₂_isDigitOf_iff.1 rows
    rw [if_pos ⟨hs, digits⟩, number]

end Decimal

namespace Hexadecimal

instance (c : Char) (value : Nat) : Decidable (IsDigitOf c value) :=
  inferInstanceAs (Decidable (_ ∨ _))

theorem IsDigitOf.lt {c : Char} {d : Nat} (h : IsDigitOf c d) : d < 16 := by
  rcases h with h | h
  · exact (List.getElem?_eq_some_iff.1 h).1
  · exact (List.getElem?_eq_some_iff.1 h).1

theorem isDigitOf_hexDigit {d : Nat} (h : d < 16) : IsDigitOf (Bytes.hexDigit d) d := by
  have row : ∀ k : Fin 16, IsDigitOf (Bytes.hexDigit k) k := by decide
  exact row ⟨d, h⟩

theorem digitValue?_eq_some_iff {c : Char} {d : Nat} : digitValue? c = some d ↔ IsDigitOf c d := by
  constructor
  · intro h
    -- No digit lies behind the letter f, so that a look at the characters up to there is enough.
    have small : c.toNat < 103 := by
      unfold digitValue? at h
      dsimp only at h
      split at h
      · omega
      · split at h
        · omega
        · split at h
          · omega
          · cases h
    have rows : ∀ k : Fin 103, ∀ e ∈ digitValue? (Char.ofNat k), IsDigitOf (Char.ofNat k) e := by
      decide
    have found := rows ⟨c.toNat, small⟩ d
    rw [Char.ofNat_toNat] at found
    exact found h
  · have lower : ∀ k : Fin 16, "0123456789abcdef".toList[k.val]?.bind digitValue? = some k.val := by
      decide
    have upper : ∀ k : Fin 16, "0123456789ABCDEF".toList[k.val]?.bind digitValue? = some k.val := by
      decide
    rintro (h | h)
    · have bound : d < 16 := (List.getElem?_eq_some_iff.1 h).1
      have value := lower ⟨d, bound⟩
      rwa [h] at value
    · have bound : d < 16 := (List.getElem?_eq_some_iff.1 h).1
      have value := upper ⟨d, bound⟩
      rwa [h] at value

theorem valueFrom?_eq_some_iff {value n : Nat} {s : List Char} :
    valueFrom? value s = some n ↔ ∃ values, List.Forall₂ IsDigitOf s values ∧
      n = values.foldl (fun n d => n * 16 + d) value := by
  induction s generalizing value with
  | nil =>
    constructor
    · intro h
      exact ⟨[], .nil, (Option.some.inj h).symm⟩
    · rintro ⟨values, rows, rfl⟩
      cases rows
      rfl
  | cons c s ih =>
    rw [valueFrom?, Option.bind_eq_bind, Option.bind_eq_some_iff]
    constructor
    · rintro ⟨d, hc, h⟩
      obtain ⟨values, rows, rfl⟩ := ih.1 h
      exact ⟨d :: values, .cons (digitValue?_eq_some_iff.1 hc) rows, rfl⟩
    · rintro ⟨values, rows, rfl⟩
      cases rows with
      | cons first rest =>
        exact ⟨_, digitValue?_eq_some_iff.2 first, ih.2 ⟨_, rest, rfl⟩⟩

/-- The reader accepts the numerals, at their numbers. -/
theorem value?_eq_some_iff {s : List Char} {n : Nat} :
    value? s = some n ↔ s ≠ [] ∧ IsNumeral IsDigitOf 16 s n := by
  unfold value? IsNumeral
  simp only [ofDigits_reverse_eq_foldl]
  rw [← valueFrom?_eq_some_iff]
  by_cases hs : s = []
  · rw [if_pos hs]
    exact iff_of_false nofun fun h => h.1 hs
  · rw [if_neg hs]
    exact (and_iff_right hs).symm

end Hexadecimal

/-! ## Writing -/

/-- The writer of a base: a number below the base is one glyph, any other the glyph of its last
digit behind what is left without it. -/
structure IsWriter (glyph : Nat → Char) (base : Nat) (write : Nat → List Char) : Prop where
  one_lt : 1 < base
  below : ∀ n < base, write n = [glyph n]
  above : ∀ n, base ≤ n → write n = write (n / base) ++ [glyph (n % base)]

theorem Decimal.isWriter_digits : IsWriter digit 10 digits where
  one_lt := by decide
  below n h := by rw [digits, if_pos h]
  above n h := by rw [digits, if_neg (Nat.not_lt.2 h)]

theorem Hexadecimal.isWriter_digits : IsWriter Bytes.hexDigit 16 digits where
  one_lt := by decide
  below n h := by rw [digits, if_pos h]
  above n h := by rw [digits, if_neg (Nat.not_lt.2 h)]

/-- A number is written in decimals as it is printed. -/
theorem Decimal.ofList_digits (n : Nat) : String.ofList (digits n) = toString n := by
  have row : ∀ k : Fin 10, digit k = Nat.digitChar k := by decide
  have glyph : ∀ {k : Nat}, k < 10 → digit k = Nat.digitChar k := fun {k} h => row ⟨k, h⟩
  have same : digits n = Nat.toDigits 10 n := by
    induction n using Nat.strongRecOn with
    | ind n ih =>
      rw [digits, Nat.toDigits_eq_if (by decide)]
      split
      · rename_i h
        rw [glyph h]
      · rw [ih (n / 10) (by omega), glyph (Nat.mod_lt n (by decide))]
  rw [same, Nat.toString_eq_repr, Nat.repr_eq_ofList_toDigits]

namespace IsWriter

variable {digit : Char → Nat → Prop} {glyph : Nat → Char} {base : Nat} {write : Nat → List Char}
  (w : IsWriter glyph base write)

include w

/-- What is written are the digits of the number, of which zero has one here. -/
theorem eq_map_digits {n : Nat} (hn : n ≠ 0) :
    write n = (Nat.digits base n).reverse.map glyph := by
  induction n using Nat.strongRecOn with
  | ind n ih =>
    rw [Nat.digits_def' w.one_lt (Nat.pos_of_ne_zero hn), List.reverse_cons, List.map_append]
    by_cases h : n < base
    · rw [w.below n h, Nat.div_eq_of_lt h, Nat.mod_eq_of_lt h, Nat.digits_zero]
      rfl
    · have hb : base ≤ n := Nat.not_lt.1 h
      have left : n / base ≠ 0 := (Nat.div_pos hb (Nat.zero_lt_of_lt w.one_lt)).ne'
      rw [w.above n hb, ih (n / base) (Nat.div_lt_self (Nat.pos_of_ne_zero hn) w.one_lt) left]
      rfl

theorem write_zero : write 0 = [glyph 0] := w.below 0 (Nat.zero_lt_of_lt w.one_lt)

/-- What is written is a numeral of the number. -/
theorem isNumeral (h : ∀ d < base, digit (glyph d) d) (n : Nat) :
    IsNumeral digit base (write n) n := by
  by_cases hn : n = 0
  · subst hn
    rw [w.write_zero]
    exact ⟨[0], .cons (h 0 (Nat.zero_lt_of_lt w.one_lt)) .nil, rfl⟩
  · refine ⟨(Nat.digits base n).reverse, ?_, ?_⟩
    · rw [w.eq_map_digits hn, List.forall₂_map_left_iff, List.forall₂_same]
      intro d hd
      exact h d (Nat.digits_lt_base w.one_lt (List.mem_reverse.1 hd))
    · rw [List.reverse_reverse, Nat.ofDigits_digits]

theorem ne_nil (n : Nat) : write n ≠ [] := by
  by_cases hn : n = 0
  · rw [hn, w.write_zero]
    exact List.cons_ne_nil _ _
  · rw [w.eq_map_digits hn, Ne, List.map_eq_nil_iff, List.reverse_eq_nil_iff]
    exact Nat.digits_ne_nil_iff_ne_zero.2 hn

/-- A number below a power of the base has no more digits than the power says. -/
theorem length_le {n k : Nat} (hk : 0 < k) (h : n < base ^ k) : (write n).length ≤ k := by
  by_cases hn : n = 0
  · rw [hn, w.write_zero]
    exact hk
  · rw [w.eq_map_digits hn, List.length_map, List.length_reverse]
    exact (Nat.digits_length_le_iff w.one_lt n).2 h

/-- Only zero begins with the glyph of zero. -/
theorem eq_zero_of_head? {n : Nat} (h : ∀ d < base, glyph d = glyph 0 → d = 0)
    (hd : (write n).head? = some (glyph 0)) : n = 0 := by
  by_contra hn
  rw [w.eq_map_digits hn, List.head?_map, List.head?_reverse, Option.map_eq_some_iff] at hd
  obtain ⟨d, last, same⟩ := hd
  obtain ⟨digits, rfl⟩ := List.mem_getLast?_eq_getLast last
  exact Nat.getLast_digit_ne_zero base hn
    (h _ (Nat.digits_lt_base w.one_lt (List.getLast_mem digits)) same)

end IsWriter

end CertRenewal
