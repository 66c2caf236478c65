import CertRenewal.Host.Ip
import CertRenewal.Proofs.Markers
import CertRenewal.Proofs.Numerals

/-
  The literals of addresses. The grammar comes first, as relations between a text and the address
  that it spells, in which nothing is read from left to right; `Ip.IsSpelled` is the whole of it.
  The reader of addresses is then held against it, from octets and groups up. Main statement:
  `Ip.ofChars?_eq_some_iff`, the reader accepts exactly the literals, and finds in each the address
  that it spells.
-/

namespace CertRenewal

/-! ## The grammar -/

namespace Ipv4

/-- The text of an octet: one to three decimal digits without a leading zero. -/
structure IsOctet (s : List Char) (x : UInt8) : Prop where
  ne_nil : s ≠ []
  length_le : s.length ≤ 3
  eq_zero_of_head? : s.head? = some '0' → s = ['0']
  numeral : IsNumeral Decimal.IsDigitOf 10 s x.toNat

/-- The literal of a version 4 address: its four octets between dots. -/
def IsSpelled (i : Ipv4) (s : List Char) : Prop :=
  ∃ a b c d, s = a ++ '.' :: (b ++ '.' :: (c ++ '.' :: d)) ∧
    IsOctet a i.a ∧ IsOctet b i.b ∧ IsOctet c i.c ∧ IsOctet d i.d

end Ipv4

namespace Ipv6

/-- The text of a group: one to four hexadecimal digits. -/
structure IsGroup (s : List Char) (g : UInt16) : Prop where
  ne_nil : s ≠ []
  length_le : s.length ≤ 4
  numeral : IsNumeral Hexadecimal.IsDigitOf 16 s g.toNat

/-- Groups between colons. Where it is allowed, a version 4 address may stand for the last two. -/
inductive IsRow (mayBeDotted : Bool) : List Char → List UInt16 → Prop where
  | single {s : List Char} {g : UInt16} (h : IsGroup s g) : IsRow mayBeDotted s [g]
  | dotted {s : List Char} {i : Ipv4} {g h : UInt16} (allowed : mayBeDotted = true)
      (spelled : i.IsSpelled s) (hg : g.toNat = i.a.toNat * 256 + i.b.toNat)
      (hh : h.toNat = i.c.toNat * 256 + i.d.toNat) : IsRow mayBeDotted s [g, h]
  | cons {s t : List Char} {g : UInt16} {gs : List UInt16} (first : IsGroup s g)
      (rest : IsRow mayBeDotted t gs) : IsRow mayBeDotted (s ++ ':' :: t) (g :: gs)

/-- One side of a double colon: groups between colons, or nothing. -/
def IsSide (mayBeDotted : Bool) (s : List Char) (gs : List UInt16) : Prop :=
  s = [] ∧ gs = [] ∨ IsRow mayBeDotted s gs

/-- The literal of a version 6 address: all of its groups, or those around a run of zero groups for
which a double colon stands. -/
inductive IsSpelled (i : Ipv6) : List Char → Prop where
  | full {s : List Char} (h : IsRow true s i.groups) : IsSpelled i s
  | gap {left right : List Char} {ls rs : List UInt16} {n : Nat} (hl : IsSide false left ls)
      (hr : IsSide true right rs) (hn : 1 ≤ n)
      (groups : i.groups = ls ++ List.replicate n 0 ++ rs) :
      IsSpelled i (left ++ ':' :: ':' :: right)

end Ipv6

namespace Ip

/-- A zone is not empty and holds no percent sign and no slash. -/
structure IsZone (zone : String) : Prop where
  ne_empty : zone ≠ ""
  no_percent : '%' ∉ zone.toList
  no_slash : '/' ∉ zone.toList

/-- The literal of an address of either version. A zone stands behind a percent sign. -/
inductive IsSpelled : Ip → List Char → Prop where
  | v4 {i : Ipv4} {s : List Char} (h : i.IsSpelled s) : IsSpelled (.v4 i) s
  | v6 {i : Ipv6} {s : List Char} (h : i.IsSpelled s) : IsSpelled (.v6 i none) s
  | zoned {i : Ipv6} {s : List Char} {zone : String} (h : i.IsSpelled s) (hz : IsZone zone) :
      IsSpelled (.v6 i (some zone)) (s ++ '%' :: zone.toList)

/-- The characters of literals, zones apart. -/
def alphabet : List Char := "0123456789abcdefABCDEF:.".toList

end Ip

/-! ## Version 4 -/

namespace Ipv4

variable {s : List Char} {c : Char}

theorem IsOctet.mem_digits {x : UInt8} (h : IsOctet s x) (hc : c ∈ s) : c ∈ "0123456789".toList := by
  obtain ⟨d, hd⟩ := h.numeral.exists_value hc
  exact List.mem_of_getElem? hd

theorem octet?_eq_some_iff {x : UInt8} : octet? s = some x ↔ IsOctet s x := by
  have shape : (s = ['0'] ∨ s.head? ≠ some '0') ↔ (s.head? = some '0' → s = ['0']) := by
    rw [or_comm, Ne, ← imp_iff_not_or]
  unfold octet?
  constructor
  · intro h
    split at h
    · rename_i texts
      rw [Option.bind_eq_bind, Option.bind_eq_some_iff] at h
      obtain ⟨n, read, h⟩ := h
      split at h
      · rename_i small
        obtain ⟨hs, numeral⟩ := Decimal.value?_eq_some_iff.1 read
        obtain rfl := Option.some.inj h
        refine ⟨hs, texts.1, shape.1 texts.2, ?_⟩
        rwa [UInt8.toNat_ofNat', Nat.mod_eq_of_lt (by omega)]
      · cases h
    · cases h
  · intro h
    have read : Decimal.value? s = some x.toNat :=
      Decimal.value?_eq_some_iff.2 ⟨h.ne_nil, h.numeral⟩
    have small : x.toNat ≤ 255 := Nat.le_of_lt_succ x.toNat_lt
    rw [if_pos ⟨h.length_le, shape.2 h.eq_zero_of_head?⟩, read, Option.bind_eq_bind, Option.bind_some,
      if_pos small, UInt8.ofNat_toNat]

theorem dot_not_mem_octet {x : UInt8} (h : IsOctet s x) : '.' ∉ s :=
  fun hc => absurd (h.mem_digits hc) (by decide)

theorem ofChars?_eq_some_iff {i : Ipv4} : ofChars? s = some i ↔ i.IsSpelled s := by
  constructor
  · intro h
    have joined := Pieces.joinWith_splitAt '.' s
    unfold ofChars? at h
    split at h
    · rename_i a b c d pieces
      simp only [Option.bind_eq_bind, Option.bind_eq_some_iff, Option.some.injEq] at h
      obtain ⟨x, hx, y, hy, z, hz, w, hw, rfl⟩ := h
      rw [pieces] at joined
      exact ⟨a, b, c, d, joined.symm, octet?_eq_some_iff.1 hx, octet?_eq_some_iff.1 hy,
        octet?_eq_some_iff.1 hz, octet?_eq_some_iff.1 hw⟩
    · cases h
  · rintro ⟨a, b, c, d, rfl, ha, hb, hc, hd⟩
    unfold ofChars?
    rw [Pieces.splitAt_append_cons (dot_not_mem_octet ha),
      Pieces.splitAt_append_cons (dot_not_mem_octet hb),
      Pieces.splitAt_append_cons (dot_not_mem_octet hc),
      Pieces.splitAt_of_not_mem (dot_not_mem_octet hd)]
    simp only [octet?_eq_some_iff.2 ha, octet?_eq_some_iff.2 hb, octet?_eq_some_iff.2 hc,
      octet?_eq_some_iff.2 hd, Option.bind_eq_bind, Option.bind_some]

theorem IsSpelled.mem {i : Ipv4} (h : i.IsSpelled s) (hc : c ∈ s) : c ∈ ".0123456789".toList := by
  obtain ⟨a, b, d, e, rfl, ha, hb, hd, he⟩ := h
  have digit : ∀ {t : List Char} {x : UInt8}, IsOctet t x → c ∈ t → c ∈ ".0123456789".toList :=
    fun octet ht => List.mem_cons_of_mem _ (octet.mem_digits ht)
  simp only [List.mem_append, List.mem_cons] at hc
  rcases hc with hc | rfl | hc | rfl | hc | rfl | hc
  · exact digit ha hc
  · decide
  · exact digit hb hc
  · decide
  · exact digit hd hc
  · decide
  · exact digit he hc

theorem IsSpelled.mem_alphabet {i : Ipv4} (h : i.IsSpelled s) (hc : c ∈ s) : c ∈ Ip.alphabet := by
  have part : ".0123456789".toList ⊆ Ip.alphabet := by decide
  exact part (h.mem hc)

end Ipv4

/-! ## Version 6 -/

namespace Ipv6

variable {s t : List Char} {c : Char} {g : UInt16} {gs : List UInt16} {mayBeDotted : Bool}

theorem IsGroup.mem_digits (h : IsGroup s g) (hc : c ∈ s) :
    c ∈ "0123456789abcdefABCDEF".toList := by
  have lower : "0123456789abcdef".toList ⊆ "0123456789abcdefABCDEF".toList := by decide
  have upper : "0123456789ABCDEF".toList ⊆ "0123456789abcdefABCDEF".toList := by decide
  obtain ⟨d, hd | hd⟩ := h.numeral.exists_value hc
  · exact lower (List.mem_of_getElem? hd)
  · exact upper (List.mem_of_getElem? hd)

theorem IsGroup.colon_not_mem (h : IsGroup s g) : ':' ∉ s :=
  fun hc => absurd (h.mem_digits hc) (by decide)

theorem IsGroup.dot_not_mem (h : IsGroup s g) : '.' ∉ s :=
  fun hc => absurd (h.mem_digits hc) (by decide)

theorem group?_eq_some_iff : group? s = some g ↔ IsGroup s g := by
  unfold group?
  constructor
  · intro h
    split at h
    · rename_i short
      obtain ⟨n, read, rfl⟩ := Option.map_eq_some_iff.1 h
      obtain ⟨hs, numeral⟩ := Hexadecimal.value?_eq_some_iff.1 read
      have small : n < 2 ^ 16 := Nat.lt_of_lt_of_le
        (numeral.lt_pow (by decide) fun c d => Hexadecimal.IsDigitOf.lt)
        (Nat.pow_le_pow_right (by decide) short : 16 ^ s.length ≤ 16 ^ 4)
      refine ⟨hs, short, ?_⟩
      rwa [UInt16.toNat_ofNat', Nat.mod_eq_of_lt small]
    · cases h
  · intro h
    rw [if_pos h.length_le, Hexadecimal.value?_eq_some_iff.2 ⟨h.ne_nil, h.numeral⟩, Option.map_some,
      UInt16.ofNat_toNat]

/-! ### Rows of groups -/

theorem groupsOfPieces?_cons (piece : List Char) {pieces : List (List Char)} (h : pieces ≠ []) :
    groupsOfPieces? (piece :: pieces) =
      (group? piece).bind fun g => (groupsOfPieces? pieces).bind fun gs => some (g :: gs) := by
  cases pieces with
  | nil => exact absurd rfl h
  | cons next pieces => rfl

/-- The two groups of a version 4 address in numbers. -/
theorem groups_eq (i : Ipv4) : ∃ g h, i.groups = [g, h] ∧
    g.toNat = i.a.toNat * 256 + i.b.toNat ∧ h.toNat = i.c.toNat * 256 + i.d.toNat := by
  have join : ∀ x y : UInt8, (UInt16.ofNat (x.toNat * 256 + y.toNat)).toNat =
      x.toNat * 256 + y.toNat := by
    intro x y
    have hx := x.toNat_lt
    have hy := y.toNat_lt
    rw [UInt16.toNat_ofNat', Nat.mod_eq_of_lt (by omega)]
  exact ⟨_, _, rfl, join i.a i.b, join i.c i.d⟩

/-- Pieces that are read are a row when colons are put between them. -/
theorem isRow_of_groupsOfPieces? {pieces : List (List Char)} (hp : pieces ≠ [])
    (h : groupsOfPieces? pieces = some gs) : IsRow true (Pieces.joinWith ':' pieces) gs := by
  induction pieces generalizing gs with
  | nil => exact absurd rfl hp
  | cons piece pieces ih =>
    by_cases last : pieces = []
    · subst last
      rw [groupsOfPieces?] at h
      split at h
      · obtain ⟨i, read, rfl⟩ := Option.map_eq_some_iff.1 h
        obtain ⟨x, y, two, hx, hy⟩ := groups_eq i
        rw [two]
        exact .dotted rfl (Ipv4.ofChars?_eq_some_iff.1 read) hx hy
      · obtain ⟨g, read, rfl⟩ := Option.map_eq_some_iff.1 h
        exact .single (group?_eq_some_iff.1 read)
    · rw [groupsOfPieces?_cons piece last] at h
      simp only [Option.bind_eq_some_iff, Option.some.injEq] at h
      obtain ⟨g, first, rest, others, rfl⟩ := h
      rw [Pieces.joinWith_cons ':' piece last]
      exact .cons (group?_eq_some_iff.1 first) (ih last others)

/-- A row is read when it is cut at its colons. -/
theorem IsRow.groupsOfPieces?_splitAt (h : IsRow mayBeDotted s gs) :
    groupsOfPieces? (Pieces.splitAt ':' s) = some gs := by
  induction h with
  | single group =>
    rw [Pieces.splitAt_of_not_mem group.colon_not_mem, groupsOfPieces?,
      if_neg (by simpa using group.dot_not_mem), group?_eq_some_iff.2 group]
    rfl
  | @dotted s i g h _ spelled hg hh =>
    have colon : ':' ∉ s := fun hc => absurd (spelled.mem hc) (by decide)
    have dot : '.' ∈ s := by
      obtain ⟨a, b, c, d, rfl, -⟩ := spelled
      simp
    obtain ⟨x, y, two, hx, hy⟩ := groups_eq i
    rw [Pieces.splitAt_of_not_mem colon, groupsOfPieces?, if_pos (by simpa using dot),
      Ipv4.ofChars?_eq_some_iff.2 spelled, Option.map_some, two,
      UInt16.toNat_inj.1 (hx.trans hg.symm), UInt16.toNat_inj.1 (hy.trans hh.symm)]
  | cons first rest ih =>
    rw [Pieces.splitAt_append_cons first.colon_not_mem,
      groupsOfPieces?_cons _ (Pieces.splitAt_ne_nil _ _), group?_eq_some_iff.2 first, ih]
    rfl

theorem IsRow.ne_nil (h : IsRow mayBeDotted s gs) : s ≠ [] := by
  cases h with
  | single group => exact group.ne_nil
  | dotted _ spelled =>
    obtain ⟨a, b, c, d, rfl, -⟩ := spelled
    simp
  | cons => simp

theorem IsRow.mem (h : IsRow mayBeDotted s gs) (hc : c ∈ s) : c ∈ Ip.alphabet := by
  have digits : "0123456789abcdefABCDEF".toList ⊆ Ip.alphabet := by decide
  induction h with
  | single group => exact digits (group.mem_digits hc)
  | dotted _ spelled => exact spelled.mem_alphabet hc
  | cons first _ ih =>
    rcases List.mem_append.1 hc with hc | hc
    · exact digits (first.mem_digits hc)
    · rcases List.mem_cons.1 hc with rfl | hc
      · decide
      · exact ih hc

/-- A row may be dotted exactly if it has no dot or is allowed one. -/
theorem isRow_false_iff : IsRow false s gs ↔ IsRow true s gs ∧ '.' ∉ s := by
  constructor
  · intro h
    induction h with
    | single group => exact ⟨.single group, group.dot_not_mem⟩
    | dotted allowed => cases allowed
    | cons first rest ih =>
      refine ⟨.cons first ih.1, ?_⟩
      rw [List.mem_append, List.mem_cons]
      rintro (h | h | h)
      · exact first.dot_not_mem h
      · revert h
        decide
      · exact ih.2 h
  · rintro ⟨h, hdot⟩
    induction h with
    | single group => exact .single group
    | dotted _ spelled =>
      obtain ⟨a, b, c, d, rfl, -⟩ := spelled
      simp at hdot
    | cons first rest ih =>
      refine .cons first (ih fun h => hdot ?_)
      exact List.mem_append_right _ (List.mem_cons_of_mem _ h)

/-! ### Sides of a double colon -/

theorem side?_eq_some_iff : side? s = some gs ↔ IsSide true s gs := by
  unfold side? IsSide
  by_cases hs : s = []
  · subst hs
    rw [if_pos rfl]
    constructor
    · intro h
      exact .inl ⟨rfl, (Option.some.inj h).symm⟩
    · rintro (⟨-, rfl⟩ | h)
      · rfl
      · exact absurd rfl h.ne_nil
  · rw [if_neg hs]
    constructor
    · intro h
      have row := isRow_of_groupsOfPieces? (Pieces.splitAt_ne_nil _ _) h
      rw [Pieces.joinWith_splitAt] at row
      exact .inr row
    · rintro (⟨empty, -⟩ | h)
      · exact absurd empty hs
      · exact h.groupsOfPieces?_splitAt

theorem leftSide?_eq_some_iff : leftSide? s = some gs ↔ IsSide false s gs := by
  unfold leftSide?
  by_cases hdot : '.' ∈ s
  · rw [if_pos (by simpa using hdot)]
    refine iff_of_false nofun ?_
    rintro (⟨rfl, -⟩ | h)
    · cases hdot
    · exact (isRow_false_iff.1 h).2 hdot
  · rw [if_neg (by simpa using hdot), side?_eq_some_iff]
    unfold IsSide
    rw [isRow_false_iff, and_iff_left hdot]

/-! ### Colons -/

/-- Put between two colons, the text has no two of them next to each other. So it is not empty, and
neither begins nor ends with a colon. -/
def IsSpaced (s : List Char) : Prop :=
  (':' :: (s ++ [':'])).IsChain fun a b => ¬ (a = ':' ∧ b = ':')

theorem isSpaced_of_not_mem (hs : s ≠ []) (h : ':' ∉ s) : IsSpaced s := by
  have chain : ∀ {x : Char} {l : List Char}, ':' ∉ x :: l →
      (x :: (l ++ [':'])).IsChain fun a b => ¬ (a = ':' ∧ b = ':') := by
    intro x l
    induction l generalizing x with
    | nil =>
      intro h
      rw [List.nil_append, List.isChain_pair]
      rintro ⟨rfl, -⟩
      exact h List.mem_cons_self
    | cons y l ih =>
      intro h
      rw [List.mem_cons, not_or] at h
      rw [List.cons_append, List.isChain_cons_cons]
      exact ⟨fun two => h.1 two.1.symm, ih h.2⟩
  cases s with
  | nil => exact absurd rfl hs
  | cons x l =>
    unfold IsSpaced
    rw [List.cons_append, List.isChain_cons_cons]
    refine ⟨fun two => ?_, chain h⟩
    rw [two.2] at h
    exact h List.mem_cons_self

theorem IsSpaced.append_cons (hs : IsSpaced s) (ht : IsSpaced t) : IsSpaced (s ++ ':' :: t) := by
  unfold IsSpaced
  rw [List.append_assoc, List.cons_append, ← List.cons_append, List.isChain_split]
  exact ⟨hs, ht⟩

theorem IsSpaced.not_infix (h : IsSpaced s) : ¬ [':', ':'] <:+: s ++ [':'] := by
  intro two
  have pair := List.IsChain.infix h (two.trans (List.suffix_cons ':' _).isInfix)
  rw [List.isChain_pair] at pair
  exact pair ⟨rfl, rfl⟩

theorem IsRow.isSpaced (h : IsRow mayBeDotted s gs) : IsSpaced s := by
  induction h with
  | single group => exact isSpaced_of_not_mem group.ne_nil group.colon_not_mem
  | @dotted s i g h allowed spelled hg hh =>
    have row : IsRow mayBeDotted s [g, h] := .dotted allowed spelled hg hh
    exact isSpaced_of_not_mem row.ne_nil fun hc => absurd (spelled.mem hc) (by decide)
  | cons first _ ih => exact (isSpaced_of_not_mem first.ne_nil first.colon_not_mem).append_cons ih

theorem IsSide.not_infix (h : IsSide mayBeDotted s gs) : ¬ [':', ':'] <:+: s ++ [':'] := by
  rcases h with ⟨rfl, -⟩ | h
  · decide
  · exact h.isSpaced.not_infix

/-! ### Whole addresses -/

theorem ofGroups?_eq_some_iff {i : Ipv6} : ofGroups? gs = some i ↔ gs = i.groups := by
  unfold ofGroups?
  constructor
  · intro h
    split at h
    · cases h
      rfl
    · cases h
  · rintro rfl
    rw [dif_pos i.length_groups]

theorem ofChars?_eq_some_iff {i : Ipv6} : ofChars? s = some i ↔ i.IsSpelled s := by
  constructor
  · intro h
    unfold ofChars? at h
    split at h
    · rename_i left right cut
      obtain rfl := eq_append_of_cut? cut
      simp only [Option.bind_eq_bind, Option.bind_eq_some_iff] at h
      obtain ⟨ls, hl, rs, hr, h⟩ := h
      split at h
      · rename_i positive
        rw [List.append_assoc]
        exact .gap (leftSide?_eq_some_iff.1 hl) (side?_eq_some_iff.1 hr) positive
          (ofGroups?_eq_some_iff.1 h).symm
      · cases h
    · simp only [Option.bind_eq_bind, Option.bind_eq_some_iff] at h
      obtain ⟨groups, side, h⟩ := h
      obtain rfl := ofGroups?_eq_some_iff.1 h
      rcases side?_eq_some_iff.1 side with ⟨-, empty⟩ | row
      · have size := i.length_groups
        rw [empty] at size
        cases size
      · exact .full row
  · intro h
    cases h with
    | full row =>
      have uncut : cut? [':', ':'] s = none :=
        cut?_eq_none_iff.2 fun two => row.isSpaced.not_infix (two.trans (List.prefix_append s _).isInfix)
      unfold ofChars?
      rw [uncut]
      simp only [side?_eq_some_iff.2 (.inr row), Option.bind_eq_bind, Option.bind_some]
      exact ofGroups?_eq_some_iff.2 rfl
    | @gap left right ls rs n hl hr hn groups =>
      have cut : cut? [':', ':'] (left ++ ':' :: ':' :: right) = some (left, right) :=
        cut?_append_of_not_infix (List.cons_ne_nil _ _) hl.not_infix right
      have size : n = 8 - (ls.length + rs.length) := by
        have total := i.length_groups
        rw [groups, List.length_append, List.length_append, List.length_replicate] at total
        omega
      unfold ofChars?
      rw [cut]
      simp only [leftSide?_eq_some_iff.2 hl, side?_eq_some_iff.2 hr, Option.bind_eq_bind,
        Option.bind_some]
      rw [← size, if_pos hn]
      exact ofGroups?_eq_some_iff.2 groups.symm

theorem IsSide.mem (h : IsSide mayBeDotted s gs) (hc : c ∈ s) : c ∈ Ip.alphabet := by
  rcases h with ⟨rfl, -⟩ | h
  · cases hc
  · exact h.mem hc

theorem IsSpelled.mem {i : Ipv6} (h : i.IsSpelled s) (hc : c ∈ s) : c ∈ Ip.alphabet := by
  cases h with
  | full row => exact row.mem hc
  | gap hl hr =>
    simp only [List.mem_append, List.mem_cons] at hc
    rcases hc with hc | rfl | rfl | hc
    · exact hl.mem hc
    · decide
    · decide
    · exact hr.mem hc

theorem IsSpelled.colon_mem {i : Ipv6} (h : i.IsSpelled s) : ':' ∈ s := by
  cases h with
  | full row =>
    have size := i.length_groups
    -- A row without a colon has one group, or two if it is dotted.
    generalize i.groups = gs at row size
    cases row with
    | single => cases size
    | dotted => cases size
    | cons => simp
  | gap => simp

end Ipv6

/-! ## Either version -/

namespace Ip

variable {s : List Char}

theorem splitZone?_of_none (h : '%' ∉ s) : splitZone? s = some (s, none) := by
  have uncut : cut? ['%'] s = none := by
    apply cut?_eq_none_iff.2
    intro inside
    exact h (inside.subset List.mem_cons_self)
  unfold splitZone?
  rw [uncut]

theorem splitZone?_append (h : '%' ∉ s) {zone : String} (hz : IsZone zone) :
    splitZone? (s ++ '%' :: zone.toList) = some (s, some zone) := by
  have cut : cut? ['%'] (s ++ '%' :: zone.toList) = some (s, zone.toList) := by
    apply cut?_append_of_not_infix (List.cons_ne_nil _ _)
    rw [List.dropLast_singleton, List.append_nil]
    intro inside
    exact h (inside.subset List.mem_cons_self)
  have good : zone.toList ≠ [] ∧ (!zone.toList.contains '%') = true := by
    refine ⟨fun empty => hz.ne_empty (String.toList_eq_nil_iff.1 empty), ?_⟩
    simpa using hz.no_percent
  unfold splitZone?
  rw [cut]
  dsimp only
  rw [if_pos good, String.ofList_toList]

/-- A text with a colon and without a slash can only be a literal of version 6. -/
theorem ofChars?_of_colon (colon : ':' ∈ s) (slash : '/' ∉ s) :
    ofChars? s = (splitZone? s).bind fun (address, zone) =>
      (Ipv6.ofChars? address).bind fun i => some (.v6 i zone) := by
  have other : Ipv4.ofChars? s = none := by
    rw [Option.eq_none_iff_forall_ne_some]
    intro i read
    exact absurd ((Ipv4.ofChars?_eq_some_iff.1 read).mem colon) (by decide)
  unfold ofChars?
  rw [if_neg (by simpa using slash), other]
  rfl

/-- A zone and an address that are found side by side spell an address together. -/
theorem isSpelled_of_splitZone? {address : List Char} {zone : Option String} {i : Ipv6}
    (slash : '/' ∉ s) (h : splitZone? s = some (address, zone)) (hi : i.IsSpelled address) :
    IsSpelled (.v6 i zone) s := by
  unfold splitZone? at h
  split at h
  · cases h
    exact .v6 hi
  · rename_i before behind cut
    split at h
    · rename_i good
      cases h
      obtain rfl := eq_append_of_cut? cut
      have zone : IsZone (String.ofList behind) := by
        refine ⟨?_, ?_, ?_⟩
        · intro empty
          apply good.1
          rw [← String.toList_ofList (l := behind), empty]
          rfl
        · rw [String.toList_ofList]
          simpa using good.2
        · rw [String.toList_ofList]
          intro inside
          exact slash (List.mem_append_right _ inside)
      have spelled := IsSpelled.zoned hi zone
      rw [String.toList_ofList] at spelled
      rwa [List.append_assoc]
    · cases h

/-- The reader accepts exactly the literals, and finds in each the address that it spells. -/
theorem ofChars?_eq_some_iff {i : Ip} : ofChars? s = some i ↔ i.IsSpelled s := by
  constructor
  · intro h
    unfold ofChars? at h
    split at h
    · cases h
    · rename_i noSlash
      have slash : '/' ∉ s := by simpa using noSlash
      split at h
      · rename_i i read
        cases h
        exact .v4 (Ipv4.ofChars?_eq_some_iff.1 read)
      · simp only [Option.bind_eq_bind, Option.bind_eq_some_iff, Option.some.injEq] at h
        obtain ⟨⟨address, zone⟩, split, i, read, rfl⟩ := h
        exact isSpelled_of_splitZone? slash split (Ipv6.ofChars?_eq_some_iff.1 read)
  · have percent : '%' ∉ alphabet := by decide
    have slash : '/' ∉ alphabet := by decide
    intro h
    cases h with
    | v4 spelled =>
      have noSlash : '/' ∉ s := fun h => absurd (spelled.mem h) (by decide)
      unfold ofChars?
      rw [if_neg (by simpa using noSlash), Ipv4.ofChars?_eq_some_iff.2 spelled]
    | v6 spelled =>
      rw [ofChars?_of_colon spelled.colon_mem fun h => slash (spelled.mem h),
        splitZone?_of_none fun h => percent (spelled.mem h), Option.bind_some]
      dsimp only
      rw [Ipv6.ofChars?_eq_some_iff.2 spelled]
      rfl
    | @zoned i s zone spelled hz =>
      have noSlash : '/' ∉ s ++ '%' :: zone.toList := by
        rw [List.mem_append, List.mem_cons]
        rintro (h | h | h)
        · exact slash (spelled.mem h)
        · revert h
          decide
        · exact hz.no_slash h
      rw [ofChars?_of_colon (List.mem_append_left _ spelled.colon_mem) noSlash,
        splitZone?_append (fun h => percent (spelled.mem h)) hz, Option.bind_some]
      dsimp only
      rw [Ipv6.ofChars?_eq_some_iff.2 spelled]
      rfl

end Ip

end CertRenewal
