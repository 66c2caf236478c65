import CertRenewal.Proofs.StrictDer
import Mathlib.Data.List.Forall2

/-
  The written forms of DER, with no word on who writes or reads them: lengths in their shortest
  form, one byte for what kind of element this is, integers with a sign byte exactly where the
  first bit would read as a sign, and elements that hold parts in a row. A grammar put together of
  these has one byte string at most for each value (`HasOne`), and has it up to the size beyond
  which there is no length.
-/

namespace CertRenewal.Der

/-! ## The written forms -/

/-- The bytes that say how long contents are: a byte below 128 of its own, or else how many bytes
follow, and these, which do not begin with zero. Anything below 128 has the first form only. -/
inductive IsLength : Nat → Bytes → Prop where
  | short {x : UInt8} (small : x.toNat < 128) : IsLength x.toNat [x]
  | long {count : UInt8} {digits : Bytes} (size : count.toNat = 128 + digits.length)
      (most : digits.length ≤ 126) (first : digits.head? ≠ some 0)
      (least : 128 ≤ Bytes.toNat digits) : IsLength (Bytes.toNat digits) (count :: digits)

/-- One byte for what kind of element this is, the length of the contents, and the contents. -/
def IsElement (kind : UInt8) (contents b : Bytes) : Prop :=
  ∃ length, IsLength contents.length length ∧ b = kind :: (length ++ contents)

/-- The contents of an integer that is not negative: the value with the top bit clear, and a zero
byte in front only where this bit would be set without it. -/
structure IsNatural (n : Nat) (contents : Bytes) : Prop where
  value : Bytes.toNat contents = n
  nonempty : contents ≠ []
  sign : ∀ x rest, contents = x :: rest → x < 128
  shortest : ∀ y rest, contents = 0 :: y :: rest → 128 ≤ y

/-- A natural number as an element of its own. -/
def IsInteger (n : Nat) (b : Bytes) : Prop :=
  ∃ contents, IsNatural n contents ∧ IsElement 0x02 contents b

/-- An element that holds parts in a row, one of each of the forms. -/
def IsNode (kind : UInt8) (forms : List (Bytes → Prop)) (b : Bytes) : Prop :=
  ∃ parts, List.Forall₂ (fun form part => form part) forms parts ∧ IsElement kind parts.flatten b

/-! ## Values -/

theorem isLength_iff {n : Nat} {b : Bytes} :
    IsLength n b ↔ b = encodeLength n ∧ n < lengthLimit := by
  constructor
  · intro h
    cases h with
    | @short x small =>
      refine ⟨?_, Nat.lt_trans small (by decide +kernel)⟩
      rw [encodeLength, if_pos small, UInt8.ofNat_toNat]
    | @long count digits size most first least =>
      refine ⟨?_, Nat.lt_of_lt_of_le (Bytes.toNat_lt digits) ?_⟩
      · rw [encodeLength, if_neg (Nat.not_lt.2 least)]
        dsimp only
        rw [Bytes.ofNat_toNat first, ← size, UInt8.ofNat_toNat]
      · exact Nat.pow_le_pow_right (by decide) most
  · rintro ⟨rfl, limit⟩
    by_cases small : n < 128
    · have byte : (UInt8.ofNat n).toNat = n := by
        rw [UInt8.toNat_ofNat', Nat.mod_eq_of_lt (by omega)]
      have short := IsLength.short (byte.symm ▸ small)
      rw [byte] at short
      rwa [encodeLength, if_pos small]
    · have most : (Bytes.ofNat n).length ≤ 126 := Bytes.length_ofNat_le limit
      have size : (UInt8.ofNat (128 + (Bytes.ofNat n).length)).toNat =
          128 + (Bytes.ofNat n).length := by
        rw [UInt8.toNat_ofNat', Nat.mod_eq_of_lt (by omega)]
      have long := IsLength.long size most (Bytes.head?_ofNat_ne_zero n)
        (by rw [Bytes.toNat_ofNat]; omega)
      rw [Bytes.toNat_ofNat] at long
      rwa [encodeLength, if_neg small]

theorem isElement_iff {tag : Tag} {kind : UInt8} (h : tag.encode = [kind]) {contents b : Bytes} :
    IsElement kind contents b ↔
      b = (Element.mk tag contents).encode ∧ (Element.mk tag contents).Fits := by
  have written : (Element.mk tag contents).encode =
      kind :: (encodeLength contents.length ++ contents) := by
    rw [Element.encode, h, List.append_assoc, List.singleton_append]
  rw [written]
  constructor
  · rintro ⟨length, shape, rfl⟩
    obtain ⟨rfl, limit⟩ := isLength_iff.1 shape
    exact ⟨rfl, limit⟩
  · rintro ⟨rfl, limit⟩
    exact ⟨_, isLength_iff.2 ⟨rfl, limit⟩, rfl⟩

theorem isNatural_iff {n : Nat} {contents : Bytes} :
    IsNatural n contents ↔ contents = natContents n := by
  constructor
  · rintro ⟨rfl, nonempty, sign, shortest⟩
    obtain ⟨x, others, rfl⟩ := List.exists_cons_of_ne_nil nonempty
    have first : (x :: others).head?.any (· < 128) = true := decide_eq_true (sign x others rfl)
    refine (natContents_toNat ?_ first).symm
    cases others with
    | nil => rfl
    | cons y rest =>
      have clear : (x == 255) = false := by
        rw [beq_eq_false_iff_ne]
        rintro rfl
        exact absurd (sign _ _ rfl) (by decide)
      have needed : (x == 0 && decide (y < 128)) = false := by
        rw [Bool.and_eq_false_imp]
        intro zero
        rw [beq_iff_eq] at zero
        subst zero
        exact decide_eq_false (UInt8.not_lt.2 (shortest _ _ rfl))
      rw [isMinimal, clear, needed]
      rfl
  · rintro rfl
    have minimal := Element.isMinimal_natContents n
    have first := Element.head?_natContents_lt n
    refine ⟨Element.toNat_natContents n, ?_, ?_, ?_⟩
    · intro nil
      rw [nil] at first
      cases first
    · intro x rest h
      rw [h] at first
      exact of_decide_eq_true first
    · intro y rest h
      rw [h, isMinimal] at minimal
      simpa using minimal

/-- A natural number that is written as an integer is one element. -/
theorem isInteger_iff {n : Nat} {b : Bytes} :
    IsInteger n b ↔ b = (Element.ofInt n).encode ∧ (Element.ofInt n).Fits := by
  have written : Element.ofInt n = ⟨.integer, natContents n⟩ := rfl
  have tag : Tag.integer.encode = [2] := by decide
  rw [written]
  constructor
  · rintro ⟨contents, natural, element⟩
    obtain rfl := isNatural_iff.1 natural
    exact (isElement_iff tag).1 element
  · intro h
    exact ⟨_, isNatural_iff.2 rfl, (isElement_iff tag).2 h⟩

/-! ## Forms that one byte string has -/

/-- No other byte string has the form, and this one has it unless it is too long. -/
structure HasOne (form : Bytes → Prop) (w : Bytes) : Prop where
  only : ∀ b, form b → b = w
  holds : w.length < lengthLimit → form w

/-- Bytes that are spelled out. -/
theorem hasOne_of_eq {w spelled : Bytes} (h : w = spelled) : HasOne (· = spelled) w where
  only _ same := same.trans h.symm
  holds _ := h

theorem hasOne_isElement {tag : Tag} {kind : UInt8} (h : tag.encode = [kind]) (contents : Bytes) :
    HasOne (IsElement kind contents) (Element.mk tag contents).encode where
  only _ written := ((isElement_iff h).1 written).1
  holds small :=
    (isElement_iff h).2 ⟨rfl, Nat.lt_of_le_of_lt (Element.length_contents_le _) small⟩

theorem hasOne_isInteger (n : Nat) : HasOne (IsInteger n) (Element.ofInt n).encode where
  only _ written := (isInteger_iff.1 written).1
  holds small :=
    isInteger_iff.2 ⟨rfl, Nat.lt_of_le_of_lt (Element.length_contents_le _) small⟩

/-- Forms in a row, each of which one byte string has, are had by these byte strings in a row. -/
theorem hasOne_row {forms : List (Bytes → Prop)} {ws : List Bytes}
    (h : List.Forall₂ HasOne forms ws) :
    (∀ parts, List.Forall₂ (fun form part => form part) forms parts → parts = ws) ∧
      (ws.flatten.length < lengthLimit → List.Forall₂ (fun form part => form part) forms ws) := by
  induction h with
  | nil =>
    refine ⟨fun parts row => ?_, fun _ => .nil⟩
    cases row with
    | nil => rfl
  | cons first _ ih =>
    refine ⟨fun parts row => ?_, fun small => ?_⟩
    · cases row with
      | cons part rest => rw [first.only _ part, ih.1 _ rest]
    · rw [List.flatten_cons, List.length_append] at small
      exact .cons (first.holds (by omega)) (ih.2 (by omega))

theorem hasOne_isNode {tag : Tag} {kind : UInt8} (h : tag.encode = [kind])
    {forms : List (Bytes → Prop)} {ws : List Bytes} (row : List.Forall₂ HasOne forms ws)
    {contents : Bytes} (joined : ws.flatten = contents) :
    HasOne (IsNode kind forms) (Element.mk tag contents).encode where
  only b := by
    rintro ⟨parts, written, element⟩
    obtain rfl := (hasOne_row row).1 parts written
    rw [joined] at element
    exact (hasOne_isElement h _).only b element
  holds small := by
    have inner := Nat.lt_of_le_of_lt (Element.length_contents_le _) small
    refine ⟨ws, (hasOne_row row).2 ?_, ?_⟩
    · rwa [joined]
    · rw [joined]
      exact (hasOne_isElement h _).holds small

/-- An element of elements is made of those that have the forms. -/
theorem hasOne_isNode_node {tag : Tag} {kind : UInt8} (h : tag.encode = [kind])
    {forms : List (Bytes → Prop)} {es : List Element}
    (row : List.Forall₂ (fun form e => HasOne form e.encode) forms es) :
    HasOne (IsNode kind forms) (Element.node tag es).encode :=
  hasOne_isNode h (List.forall₂_map_right_iff.2 row) List.flatMap_def.symm

/-- Each of the forms in a row has a part. -/
theorem exists_part {forms : List (Bytes → Prop)} {parts : List Bytes}
    (row : List.Forall₂ (fun form part => form part) forms parts) {form : Bytes → Prop}
    (mem : form ∈ forms) : ∃ part ∈ parts, form part := by
  induction row with
  | nil => cases mem
  | cons first _ ih =>
    rcases List.mem_cons.1 mem with rfl | mem
    · exact ⟨_, List.mem_cons_self, first⟩
    · obtain ⟨part, inside, written⟩ := ih mem
      exact ⟨part, List.mem_cons_of_mem _ inside, written⟩

/-- Each of the forms has a byte string inside the element. -/
theorem IsNode.exists_infix {kind : UInt8} {forms : List (Bytes → Prop)} {b : Bytes}
    (h : IsNode kind forms b) {form : Bytes → Prop} (mem : form ∈ forms) :
    ∃ part, form part ∧ part <:+: b := by
  obtain ⟨parts, row, length, -, rfl⟩ := h
  obtain ⟨part, inside, written⟩ := exists_part row mem
  refine ⟨part, written, (List.infix_of_mem_flatten inside).trans ?_⟩
  exact List.infix_cons (List.suffix_append _ _).isInfix

end CertRenewal.Der
