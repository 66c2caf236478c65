import CertRenewal.Proofs.Hosts

/-
  The texts of hosts. An address is written as one of the literals that spell it, for octets and
  groups are written in their shortest form and the double colon stands for zero groups only. Main
  statement: `Host.classify?_text`. Classifying a text and writing down the outcome is a normal form
  of hosts: to classify it again changes nothing, and it tells apart any two hosts that differ.
-/

namespace CertRenewal

/-! ## Version 4 -/

namespace Ipv4

theorem isOctet_digits (x : UInt8) : IsOctet (Decimal.digits x.toNat) x where
  ne_nil := Decimal.isWriter_digits.ne_nil _
  length_le := by
    have bound := x.toNat_lt
    exact Decimal.isWriter_digits.length_le (by decide) (by omega)
  eq_zero_of_head? := by
    have zero : ∀ d : Fin 10, Decimal.digit d = Decimal.digit 0 → d.val = 0 := by decide
    intro head
    rw [Decimal.isWriter_digits.eq_zero_of_head? (fun d hd => zero ⟨d, hd⟩) head]
    exact Decimal.isWriter_digits.write_zero
  numeral := Decimal.isWriter_digits.isNumeral (fun _ hd => Decimal.isDigitOf_digit hd) _

theorem isSpelled_chars (i : Ipv4) : i.IsSpelled i.chars :=
  ⟨_, _, _, _, rfl, isOctet_digits i.a, isOctet_digits i.b, isOctet_digits i.c, isOctet_digits i.d⟩

end Ipv4

/-! ## Version 6 -/

namespace Ipv6

theorem isGroup_digits (g : UInt16) : IsGroup (Hexadecimal.digits g.toNat) g where
  ne_nil := Hexadecimal.isWriter_digits.ne_nil _
  length_le := Hexadecimal.isWriter_digits.length_le (by decide) g.toNat_lt
  numeral := Hexadecimal.isWriter_digits.isNumeral (fun _ hd => Hexadecimal.isDigitOf_hexDigit hd) _

theorem isRow_colonText (mayBeDotted : Bool) {gs : List UInt16} (h : gs ≠ []) :
    IsRow mayBeDotted (colonText gs) gs := by
  induction gs with
  | nil => exact absurd rfl h
  | cons g gs ih =>
    by_cases last : gs = []
    · subst last
      exact .single (isGroup_digits g)
    · unfold colonText
      rw [List.map_cons, Pieces.joinWith_cons ':' _ (by rwa [Ne, List.map_eq_nil_iff])]
      exact .cons (isGroup_digits g) (ih last)

theorem isSide_colonText (mayBeDotted : Bool) (gs : List UInt16) :
    IsSide mayBeDotted (colonText gs) gs := by
  by_cases h : gs = []
  · subst h
    exact .inl ⟨rfl, rfl⟩
  · exact .inr (isRow_colonText mayBeDotted h)

/-- A list begins with the zero groups that are counted at its start, and with any part of them. -/
theorem eq_append_drop_of_le_zeros {n : Nat} {gs : List UInt16} (h : n ≤ zeros gs) :
    gs = List.replicate n 0 ++ gs.drop n := by
  have opens : gs.takeWhile (· == 0) = List.replicate (zeros gs) 0 := by
    rw [List.eq_replicate_iff]
    refine ⟨rfl, fun g hg => ?_⟩
    have zero := List.mem_takeWhile_imp hg
    exact eq_of_beq zero
  have start : gs.take n = List.replicate n 0 := by
    have begins := List.takeWhile_prefix (l := gs) (· == 0)
    rw [List.prefix_iff_eq_take, opens, List.length_replicate] at begins
    rw [← Nat.min_eq_left h, ← List.take_take, ← begins, List.take_replicate]
  rw [← start, List.take_append_drop]

/-- The run that is found is one: as many zero groups as it says stand where it says. -/
theorem longestZeros_le (gs : List UInt16) :
    (longestZeros gs).2 ≤ zeros (gs.drop (longestZeros gs).1) := by
  unfold longestZeros
  apply List.foldlRecOn (motive := fun run : Nat × Nat => run.2 ≤ zeros (gs.drop run.1))
  · exact Nat.zero_le _
  intro run held i _
  dsimp only
  split
  · exact Nat.le_refl _
  · exact held

/-- The text of an address spells it, with a double colon for a run of zero groups or in full. -/
theorem isSpelled_chars (i : Ipv6) : i.IsSpelled i.chars := by
  unfold chars
  generalize hrun : longestZeros i.groups = run
  obtain ⟨start, length⟩ := run
  dsimp only
  split
  · rename_i long
    have run : i.groups.drop start =
        List.replicate length 0 ++ i.groups.drop (start + length) := by
      have found := longestZeros_le i.groups
      rw [hrun] at found
      rw [← List.drop_drop]
      exact eq_append_drop_of_le_zeros found
    refine .gap (isSide_colonText false _) (isSide_colonText true _) (Nat.le_of_succ_le long) ?_
    rw [List.append_assoc, ← run, List.take_append_drop]
  · refine .full (isRow_colonText true ?_)
    rw [← List.length_pos_iff, i.length_groups]
    decide

/-! ### Packed bytes -/

theorem IsPacked.unique {gs : List UInt16} {b c : Bytes} (hb : IsPacked gs b) (hc : IsPacked gs c) :
    b = c := by
  induction hb generalizing c with
  | nil =>
    cases hc
    rfl
  | cons first _ ih =>
    rename_i high low _ _
    cases hc with
    | cons second rest =>
      rename_i up down _
      obtain rfl := ih rest
      have below := low.toNat_lt
      have under := down.toNat_lt
      have highs : high = up := UInt8.toNat_inj.1 (by omega)
      have lows : low = down := UInt8.toNat_inj.1 (by omega)
      rw [highs, lows]

/-- Bytes in pairs are the packed form of as many groups. -/
theorem exists_isPacked {n : Nat} {b : Bytes} (h : b.length = 2 * n) :
    ∃ gs : List UInt16, gs.length = n ∧ IsPacked gs b := by
  induction n generalizing b with
  | zero =>
    obtain rfl := List.length_eq_zero_iff.1 h
    exact ⟨[], rfl, .nil⟩
  | succ n ih =>
    match b, h with
    | high :: low :: rest, h =>
      have left : rest.length = 2 * n := by
        simp only [List.length_cons] at h
        omega
      obtain ⟨gs, size, packed⟩ := ih left
      have hh := high.toNat_lt
      have hl := low.toNat_lt
      refine ⟨UInt16.ofNat (high.toNat * 256 + low.toNat) :: gs, congrArg Nat.succ size,
        .cons ?_ packed⟩
      rw [UInt16.toNat_ofNat', Nat.mod_eq_of_lt (by omega)]

/-- Any sixteen bytes are the packed form of an address. -/
theorem exists_packed {b : Bytes} (h : b.length = 16) : ∃ i : Ipv6, i.packed = b := by
  obtain ⟨gs, size, packed⟩ := exists_isPacked (n := 8) h
  exact ⟨⟨gs, size⟩, (isPacked_flatMap gs).unique packed⟩

end Ipv6

/-- Any four bytes are the packed form of an address. -/
theorem Ipv4.exists_packed {b : Bytes} (h : b.length = 4) : ∃ i : Ipv4, i.packed = b := by
  match b, h with
  | [x, y, z, w], _ => exact ⟨⟨x, y, z, w⟩, rfl⟩

/-! ## Either version -/

/-- The zone of an address, if it has one, may stand at the end of a trimmed literal. -/
inductive Ip.IsPlain : Ip → Prop where
  | v4 (i : Ipv4) : IsPlain (.v4 i)
  | v6 (i : Ipv6) : IsPlain (.v6 i none)
  | zoned (i : Ipv6) {zone : String} (hz : IsZone zone)
      (last : ∀ c ∈ zone.toList.getLast?, Text.isBlank c = false) : IsPlain (.v6 i (some zone))

namespace Ip

variable {i : Ip} {s : List Char}

theorem IsPlain.isSpelled_chars (h : i.IsPlain) : i.IsSpelled i.chars := by
  cases h with
  | v4 i => exact .v4 i.isSpelled_chars
  | v6 i => exact .v6 i.isSpelled_chars
  | zoned i hz => exact .zoned i.isSpelled_chars hz

theorem not_isBlank_of_mem_alphabet {c : Char} (h : c ∈ alphabet) : Text.isBlank c = false := by
  have row : alphabet.all (fun x => !Text.isBlank x) = true := by decide
  exact Bool.not_eq_true' _ ▸ List.all_eq_true.1 row c h

theorem isTrimmed_of_alphabet (h : ∀ c ∈ s, c ∈ alphabet) : Text.IsTrimmed Text.isBlank s where
  head c hc := not_isBlank_of_mem_alphabet (h c (List.mem_of_mem_head? hc))
  last c hc := not_isBlank_of_mem_alphabet (h c (List.mem_of_mem_getLast? hc))

/-- No blanks stand around the text of an address whose zone ends in none. -/
theorem IsPlain.isTrimmed_chars (h : i.IsPlain) : Text.IsTrimmed Text.isBlank i.chars := by
  cases h with
  | v4 i => exact isTrimmed_of_alphabet fun c hc => i.isSpelled_chars.mem_alphabet hc
  | v6 i => exact isTrimmed_of_alphabet fun c hc => i.isSpelled_chars.mem hc
  | @zoned i zone hz last =>
    have something : zone.toList ≠ [] := fun empty => hz.ne_empty (String.toList_eq_nil_iff.1 empty)
    rw [chars, List.append_cons]
    refine Text.isTrimmed_append (by simp) something ?_ last
    -- The text opens with a character of the address, or with the sign before the zone at the latest.
    intro c hc
    have front := List.mem_append.1 (List.mem_of_mem_head? hc)
    rcases front with address | sign
    · exact not_isBlank_of_mem_alphabet (i.isSpelled_chars.mem address)
    · rw [List.mem_singleton.1 sign]
      decide

end Ip

/-! ## Hosts -/

namespace Host

variable {s : String}

/-- The text of an address is classified as the address. -/
theorem classify?_text_of_isPlain {i : Ip} (h : i.IsPlain) : classify? i.text = some (ip i) := by
  apply classify?_of_isSpelled
  rw [Ip.text, Text.toList_trim, String.toList_ofList, Text.trimList_of_isTrimmed h.isTrimmed_chars]
  exact h.isSpelled_chars

/-- The zone of an address that is read off a host ends where the host, blanks apart, ends. -/
theorem isPlain_of_classify? {i : Ip} (h : classify? s = some (ip i)) : i.IsPlain := by
  have spelled := classify?_eq_ip_iff.1 h
  have trimmed := Text.isTrimmed_trimList Text.isBlank s.toList
  rw [← Text.toList_trim] at trimmed
  generalize (Text.trim s).toList = name at spelled trimmed
  cases spelled with
  | v4 => exact .v4 _
  | v6 => exact .v6 _
  | @zoned i front zone _ hz =>
    have something : zone.toList ≠ [] := fun empty => hz.ne_empty (String.toList_eq_nil_iff.1 empty)
    refine .zoned i hz fun c hc => trimmed.last c ?_
    rwa [List.append_cons, List.getLast?_append_of_ne_nil _ something]

/-- A host is what its text is classified as. -/
theorem classify?_text_of_classify? {h : Host} (found : classify? s = some h) :
    classify? h.text = some h := by
  cases h with
  | ip i => exact classify?_text_of_isPlain (isPlain_of_classify? found)
  | dns name =>
    obtain ⟨blank, rfl, other⟩ := classify?_eq_dns_iff.1 found
    refine classify?_eq_dns_iff.2 ⟨?_, (Text.trim_trim s).symm, other⟩
    rwa [text, ← Bool.not_eq_true, Text.isBlankText_trim_iff, Text.trim_eq_empty_iff,
      Bool.not_eq_true]

/-- Nothing is what blank texts are classified as. The text of what any other is classified as is
classified alike, so that hosts with one text are one host. The text of an address is classified as
the address, for all four bytes and for all sixteen bytes there are, and with its zone where it has
one that does not end in a blank. -/
theorem classify?_text :
    (∀ s : String, classify? s = none ↔ Text.isBlankText s = true) ∧
      (∀ (s : String) (h : Host), classify? s = some h → classify? h.text = some h) ∧
      (∀ s t : String, (classify? s).map text = (classify? t).map text → classify? s = classify? t) ∧
      (∀ i : Ipv4, classify? (Ip.v4 i).text = some (ip (.v4 i))) ∧
      (∀ (i : Ipv6) (zone : Option String),
        (∀ z ∈ zone, Ip.IsZone z ∧ ∀ c ∈ z.toList.getLast?, Text.isBlank c = false) →
          classify? (Ip.v6 i zone).text = some (ip (.v6 i zone))) ∧
      (∀ b : Bytes, b.length = 4 → ∃ i : Ipv4, (Ip.v4 i).packed = b) ∧
      ∀ (b : Bytes) (zone : Option String), b.length = 16 → ∃ i : Ipv6, (Ip.v6 i zone).packed = b := by
  refine ⟨fun s => classify?_eq_none_iff, fun s h => classify?_text_of_classify?, ?_,
    fun i => classify?_text_of_isPlain (.v4 i), ?_, fun b => Ipv4.exists_packed,
    fun b _ => Ipv6.exists_packed⟩
  · intro s t same
    cases hs : classify? s with
    | none =>
      rw [hs, Option.map_none] at same
      exact (Option.map_eq_none_iff.1 same.symm).symm
    | some h =>
      rw [hs, Option.map_some] at same
      obtain ⟨k, ht, texts⟩ := Option.map_eq_some_iff.1 same.symm
      rw [ht, ← classify?_text_of_classify? hs, ← texts, classify?_text_of_classify? ht]
  · intro i zone good
    cases zone with
    | none => exact classify?_text_of_isPlain (.v6 i)
    | some z =>
      obtain ⟨hz, last⟩ := good z rfl
      exact classify?_text_of_isPlain (.zoned i hz last)

/-- The normal form of a host with two runs of zero groups, of which the longer one is left out. -/
theorem classify?_text_runs :
    (classify? " 1:0:0:2:0:0:0.0.255.3%eth 0\n").map text = some "1:0:0:2::ff03%eth 0" ∧
      classify? "1:0:0:2::ff03%eth 0" = classify? " 1:0:0:2:0:0:0.0.255.3%eth 0\n" := by
  have found : classify? " 1:0:0:2:0:0:0.0.255.3%eth 0\n" =
      some (ip (.v6 ⟨[1, 0, 0, 2, 0, 0, 0, 0xFF03], rfl⟩ (some "eth 0"))) := by
    decide
  have shown : (ip (.v6 ⟨[1, 0, 0, 2, 0, 0, 0, 0xFF03], rfl⟩ (some "eth 0"))).text =
      "1:0:0:2::ff03%eth 0" := by
    decide +kernel
  have again := classify?_text.2.1 _ _ found
  rw [shown] at again
  refine ⟨?_, again.trans found.symm⟩
  rw [found, Option.map_some, shown]

end Host

end CertRenewal
