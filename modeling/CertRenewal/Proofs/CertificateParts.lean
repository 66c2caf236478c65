import CertRenewal.Certificate.Basic
import CertRenewal.Proofs.Calendar
import CertRenewal.Proofs.Der

/-
  Reading undoes writing, for the parts that certificates and certification requests are made of.
  Each part is read back from its element as soon as it is one the format admits and its element
  is small enough to be written. Of the two forms of a time each gives back its own second, the
  short one by the century that its two digits of a year stand for.
-/

namespace CertRenewal

/-! ## Digits -/

namespace Decimal

theorem value_padded (width n : Nat) : value (padded width n) = n % 10 ^ width := by
  induction width generalizing n with
  | zero => rw [Nat.pow_zero, Nat.mod_one]; rfl
  | succ width ih =>
    rw [padded, value_append_singleton, ih, digitValue_digit (by omega), Nat.pow_succ',
      Nat.mod_mul]
    omega

theorem value?_padded {width : Nat} (h : width ≠ 0) (n : Nat) :
    value? (padded width n) = some (n % 10 ^ width) := by
  have nonempty : padded width n ≠ [] := by
    intro empty
    have size := length_padded width n
    rw [empty] at size
    exact h size.symm
  rw [value?, if_pos ⟨nonempty, all_isDigit_padded width n⟩, value_padded]

end Decimal

namespace Certificate

open Der

/-! ## Algorithms, extensions and names -/

/-- An algorithm that can be written is read back. -/
theorem Algorithm.ofElement?_toElement (a : Algorithm) (h : a.isProper = true)
    (fits : a.toElement.Fits) : ofElement? a.toElement = some a := by
  have parts : a.oid.isProper = true ∧ a.parameters.all Element.isProper = true := by
    unfold isProper at h
    simp only [Bool.and_eq_true] at h
    exact h.1
  obtain ⟨oid, parameters⟩ := a
  have proper : ∀ e ∈ oid.toElement :: parameters.toList, e.isProper = true := by
    intro e he
    rcases List.mem_cons.1 he with rfl | he
    · rfl
    · cases parameters with
      | none => cases he
      | some p =>
        obtain rfl := List.mem_singleton.1 he
        exact parts.2
  have read := Element.children?_node .sequence _ proper fits
  have elements : ofElements? (oid.toElement :: parameters.toList) = some ⟨oid, parameters⟩ := by
    cases parameters <;> simp [ofElements?, Oid.ofElement?_toElement oid parts.1]
  unfold ofElement? toElement Element.sequence
  rw [read]
  simp only [Option.bind_eq_bind, Option.bind_some, elements]
  exact if_pos h

/-- A public key is read back. -/
theorem PublicKey.ofElement?_toElement (k : PublicKey) (h : k.isProper = true)
    (fits : k.toElement.Fits) : ofElement? k.toElement = some k := by
  obtain ⟨known, bits⟩ : k.algorithm.isProper = true ∧ k.bits.isProper = true := by
    unfold isProper at h
    simpa only [Bool.and_eq_true] using h
  have proper : ∀ e ∈ [k.algorithm.toElement, k.bits.toElement .bitString],
      e.isProper = true :=
    List.all_eq_true.1 rfl
  have read := Element.children?_node .sequence _ proper fits
  have algorithm := Algorithm.ofElement?_toElement k.algorithm known
    (fits.of_mem List.mem_cons_self)
  unfold ofElement? toElement Element.sequence
  simp only [read, algorithm, BitString.ofElement?_toElement .bitString k.bits bits,
    Option.bind_eq_bind, Option.bind_some]

/-- An extension is read back. -/
theorem Extension.ofElement?_toElement (x : Extension) (h : x.isProper = true)
    (fits : x.toElement.Fits) : ofElement? x.toElement = some x := by
  obtain ⟨kind, critical, value⟩ := x
  have oid := Oid.ofElement?_toElement kind h
  cases critical with
  | false =>
    have proper : ∀ e ∈ [kind.toElement, .ofBytes value], e.isProper = true :=
      List.all_eq_true.1 rfl
    have read := Element.children?_node .sequence _ proper fits
    unfold ofElement?
    rw [show toElement ⟨kind, false, value⟩ = .node .sequence [kind.toElement, .ofBytes value]
      from rfl, read]
    simp only [oid, Element.bytes?_ofBytes, Option.bind_eq_bind, Option.bind_some]
  | true =>
    have proper : ∀ e ∈ [kind.toElement, .yes, .ofBytes value], e.isProper = true :=
      List.all_eq_true.1 rfl
    have read := Element.children?_node .sequence _ proper fits
    unfold ofElement?
    rw [show toElement ⟨kind, true, value⟩ =
      .node .sequence [kind.toElement, .yes, .ofBytes value] from rfl, read]
    simp only [oid, Element.bytes?_ofBytes, Option.bind_eq_bind, Option.bind_some, if_true]

/-- A list of extensions is read back. -/
theorem Extension.listOfElement?_listToElement (xs : List Extension)
    (h : ∀ x ∈ xs, x.isProper = true) (fits : (listToElement xs).Fits) :
    listOfElement? (listToElement xs) = some xs := by
  have proper : ∀ e ∈ xs.map toElement, e.isProper = true :=
    List.forall_mem_map.2 fun _ _ => rfl
  have read := Element.children?_node .sequence _ proper fits
  unfold listOfElement?
  rw [show listToElement xs = .node .sequence (xs.map toElement) from rfl, read]
  exact mapM_map_eq_some fun x hx =>
    ofElement?_toElement x (h x hx) (fits.of_mem (List.mem_map_of_mem hx))

/-- An attribute of a name is read back. -/
theorem Attribute.ofElement?_toElement (a : Attribute) (h : a.isProper = true)
    (fits : a.toElement.Fits) : ofElement? a.toElement = some a := by
  obtain ⟨⟨kind, value⟩, allowed⟩ : (a.kind.isProper = true ∧ a.value.isProper = true) ∧
      isProperValue a.value = true := by
    unfold isProper at h
    simpa only [Bool.and_eq_true] using h
  have proper : ∀ e ∈ [a.kind.toElement, a.value], e.isProper = true :=
    List.forall_mem_cons.2 ⟨rfl, List.forall_mem_singleton.2 value⟩
  have read := Element.children?_node .sequence _ proper fits
  unfold ofElement? toElement Element.sequence
  rw [read]
  simp only [Oid.ofElement?_toElement a.kind kind, Option.bind_eq_bind, Option.bind_some]
  exact if_pos allowed

/-- A set of attributes is read back. -/
theorem RelativeName.ofElement?_toElement (r : RelativeName) (h : r.isProper = true)
    (fits : r.toElement.Fits) : ofElement? r.toElement = some r := by
  obtain ⟨order, attributes⟩ : inByteOrder (r.map Attribute.toElement) = true ∧
      ∀ a ∈ r, a.isProper = true := by
    unfold isProper at h
    simpa only [Bool.and_eq_true, List.all_eq_true] using h
  have proper : ∀ e ∈ r.map Attribute.toElement, e.isProper = true :=
    List.forall_mem_map.2 fun _ _ => rfl
  have read := Element.children?_node .set _ proper fits
  unfold ofElement? toElement
  rw [read]
  simp only [Option.bind_eq_bind, Option.bind_some]
  rw [if_pos order]
  exact mapM_map_eq_some fun a ha =>
    Attribute.ofElement?_toElement a (attributes a ha) (fits.of_mem (List.mem_map_of_mem ha))

/-- A name is read back. -/
theorem Name.ofElement?_toElement (n : Name) (h : n.isProper = true) (fits : n.toElement.Fits) :
    ofElement? n.toElement = some n := by
  have sets : ∀ r ∈ n, r.isProper = true := by
    unfold isProper at h
    simpa only [List.all_eq_true] using h
  have proper : ∀ e ∈ n.map RelativeName.toElement, e.isProper = true :=
    List.forall_mem_map.2 fun _ _ => rfl
  have read := Element.children?_node .sequence _ proper fits
  unfold ofElement? toElement Element.sequence
  rw [read]
  exact mapM_map_eq_some fun r hr =>
    RelativeName.ofElement?_toElement r (sets r hr) (fits.of_mem (List.mem_map_of_mem hr))

/-! ## Times -/

namespace Timestamp

/-- Digits of a fixed width are read back as far as the width reaches. -/
theorem number?_padded {width : Nat} (h : width ≠ 0) (n : Nat) (rest : List Char) :
    number? width (Decimal.padded width n ++ rest) = some (n % 10 ^ width, rest) := by
  have size := Decimal.length_padded width n
  unfold number?
  rw [List.take_left' size, List.drop_left' size, Decimal.value?_padded h]
  exact if_pos (by rw [List.length_append, size]; exact Nat.le_add_right _ _)

/-- The fields after the year are read back. -/
theorem ofRest?_restChars (t : CalendarSecond) (h : t.isValid = true) :
    ofRest? t.year (restChars t) = some t := by
  have two : ∀ (n : Nat) (rest : List Char), n < 100 →
      number? 2 (Decimal.padded 2 n ++ rest) = some (n, rest) := by
    intro n rest small
    rw [number?_padded (by decide), Nat.mod_eq_of_lt (show n < 10 ^ 2 from small)]
  have days := CalendarSecond.daysInMonth_le t.year t.month
  have fields := h
  unfold CalendarSecond.isValid at fields
  simp only [Bool.and_eq_true, decide_eq_true_eq] at fields
  unfold ofRest? restChars
  simp only [two _ _ (show t.month < 100 by omega), two _ _ (show t.day < 100 by omega),
    two _ _ (show t.hour < 100 by omega), two _ _ (show t.minute < 100 by omega),
    two _ _ (show t.second < 100 by omega), Option.bind_eq_bind, Option.bind_some]
  exact if_pos ⟨trivial, h⟩

/-- Two digits stand for a year of their own in the century that the short form reaches. -/
theorem pivot_mod {year : Nat} (h : 1950 ≤ year ∧ year ≤ 2049) : pivot (year % 100) = year := by
  unfold pivot
  split <;> omega

/-- A time is read back. -/
theorem ofElement?_toElement (t : Timestamp) (h : t.isProper = true) :
    ofElement? t.toElement = some t := by
  obtain ⟨form, second⟩ := t
  obtain ⟨valid, reach⟩ : second.isValid = true ∧ _ := by
    unfold isProper at h
    rwa [Bool.and_eq_true] at h
  have rest := ofRest?_restChars second valid
  unfold ofElement? toElement
  dsimp only
  rw [Utf8.decode?_encode]
  cases form with
  | short =>
    have century : 1950 ≤ second.year ∧ second.year ≤ 2049 := by
      simpa only [Bool.and_eq_true, decide_eq_true_eq] using reach
    have year : number? 2 (Decimal.padded 2 second.year ++ restChars second) =
        some (second.year % 100, restChars second) :=
      number?_padded (by decide) second.year _
    show ofChars? .short (Decimal.padded 2 second.year ++ restChars second) = _
    unfold ofChars?
    simp only [year, Option.bind_eq_bind, Option.bind_some, pivot_mod century, rest]
  | long =>
    have small : second.year < 10000 := by
      unfold CalendarSecond.isValid at valid
      simp only [Bool.and_eq_true, decide_eq_true_eq] at valid
      omega
    have year : number? 4 (Decimal.padded 4 second.year ++ restChars second) =
        some (second.year % 10000, restChars second) :=
      number?_padded (by decide) second.year _
    rw [Nat.mod_eq_of_lt small] at year
    show ofChars? .long (Decimal.padded 4 second.year ++ restChars second) = _
    unfold ofChars?
    simp only [year, Option.bind_eq_bind, Option.bind_some, rest]

end Timestamp

/-- A validity is read back. -/
theorem Validity.ofElement?_toElement (v : Validity) (h : v.isProper = true)
    (fits : v.toElement.Fits) : ofElement? v.toElement = some v := by
  obtain ⟨notBefore, notAfter⟩ : v.notBefore.isProper = true ∧ v.notAfter.isProper = true := by
    unfold isProper at h
    simpa only [Bool.and_eq_true] using h
  have proper : ∀ e ∈ [v.notBefore.toElement, v.notAfter.toElement], e.isProper = true := by
    obtain ⟨⟨first, _⟩, ⟨last, _⟩⟩ := v
    cases first <;> cases last <;> exact List.all_eq_true.1 rfl
  have read := Element.children?_node .sequence _ proper fits
  unfold ofElement? toElement Element.sequence
  simp only [read, Timestamp.ofElement?_toElement _ notBefore,
    Timestamp.ofElement?_toElement _ notAfter, Option.bind_eq_bind, Option.bind_some]

end Certificate

end CertRenewal
