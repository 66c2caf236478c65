import CertRenewal.Text.Blank
import Mathlib.Data.List.DropRight

/-
  Trimming. A text is trimmed when no blank stands at either end of it. Trimming makes it so, and
  leaves a text alone that is so already; nothing is left exactly of texts that are blank.
-/

namespace CertRenewal.Text

/-- Neither end of the list is something that is trimmed off. -/
structure IsTrimmed {α : Type} (p : α → Bool) (l : List α) : Prop where
  head : ∀ x ∈ l.head?, p x = false
  last : ∀ x ∈ l.getLast?, p x = false

section List

variable {α : Type} {p : α → Bool} {l : List α}

theorem trimList_eq (p : α → Bool) (l : List α) : trimList p l = (l.dropWhile p).rdropWhile p := rfl

theorem isTrimmed_trimList (p : α → Bool) (l : List α) : IsTrimmed p (trimList p l) := by
  rw [trimList_eq]
  constructor
  · intro x hx
    -- What is left begins as the list did before its end was trimmed.
    have opens : (l.dropWhile p).head? = some x := by
      obtain ⟨rest, trimmed⟩ := List.head?_eq_some_iff.1 hx
      obtain ⟨cut, whole⟩ := List.rdropWhile_prefix p (l.dropWhile p)
      rw [← whole, trimmed]
      rfl
    have first := List.head?_dropWhile_not p l
    rwa [opens] at first
  · intro x hx
    obtain ⟨some_left, rfl⟩ := List.mem_getLast?_eq_getLast hx
    rw [← Bool.not_eq_true]
    exact List.rdropWhile_last_not p _ some_left

theorem trimList_of_isTrimmed (h : IsTrimmed p l) : trimList p l = l := by
  have front : l.dropWhile p = l := by
    cases l with
    | nil => rfl
    | cons x l =>
      rw [List.dropWhile_cons_of_neg]
      rw [h.head x rfl]
      decide
  rw [trimList_eq, front, List.rdropWhile_eq_self_iff]
  intro hl
  rw [h.last _ (List.getLast?_eq_some_getLast hl)]
  decide

theorem isTrimmed_iff_trimList_eq : IsTrimmed p l ↔ trimList p l = l :=
  ⟨trimList_of_isTrimmed, fun h => h ▸ isTrimmed_trimList p l⟩

theorem isTrimmed_append {m : List α} (hl : l ≠ []) (hm : m ≠ [])
    (head : ∀ x ∈ l.head?, p x = false) (last : ∀ x ∈ m.getLast?, p x = false) :
    IsTrimmed p (l ++ m) where
  head := by rwa [List.head?_append_of_ne_nil l hl]
  last := by rwa [List.getLast?_append_of_ne_nil l hm]

theorem trimList_eq_nil_iff : trimList p l = [] ↔ ∀ x ∈ l, p x = true := by
  constructor
  · intro h x hx
    by_contra kept
    rw [trimList_eq, List.rdropWhile_eq_nil_iff] at h
    -- The first element that is kept stands at the front of what is left of the list.
    cases left : l.dropWhile p with
    | nil => exact kept (List.dropWhile_eq_nil_iff.1 left x hx)
    | cons y rest =>
      have first : p y = false := by
        simpa only [left, List.head?_cons] using List.head?_dropWhile_not p l
      rw [left] at h
      rw [h y List.mem_cons_self] at first
      cases first
  · intro h
    rw [trimList_eq, List.dropWhile_eq_nil_iff.2 h]
    rfl

/-- A list is what is left of it between what is trimmed off at its ends. -/
theorem exists_eq_append_trimList (p : α → Bool) (l : List α) :
    ∃ before behind, l = before ++ trimList p l ++ behind ∧ (∀ x ∈ before, p x = true) ∧
      ∀ x ∈ behind, p x = true := by
  refine ⟨l.takeWhile p, (l.dropWhile p).rtakeWhile p, ?_, fun x => List.mem_takeWhile_imp,
    fun x => List.mem_rtakeWhile_imp⟩
  rw [trimList_eq, List.append_assoc, List.rdropWhile_append_rtakeWhile,
    List.takeWhile_append_dropWhile]

/-- What is trimmed off may as well not be there. -/
theorem trimList_append_append {before behind : List α} (front : ∀ x ∈ before, p x = true)
    (back : ∀ x ∈ behind, p x = true) : trimList p (before ++ l ++ behind) = trimList p l := by
  have flipped : ∀ x ∈ behind.reverse, p x = true := by
    intro x hx
    exact back x (List.mem_reverse.1 hx)
  unfold trimList
  rw [List.append_assoc, List.dropWhile_append_of_pos front, List.dropWhile_append]
  split
  · rename_i nothing
    rw [List.isEmpty_iff.1 nothing, List.dropWhile_eq_nil_iff.2 back]
  · rw [List.reverse_append, List.dropWhile_append_of_pos flipped]

theorem length_trimList_le (p : α → Bool) (l : List α) : (trimList p l).length ≤ l.length := by
  rw [trimList_eq]
  exact (List.rdropWhile_prefix p _).length_le.trans (List.dropWhile_suffix p).length_le

end List

/-! ## Texts -/

theorem length_trim_le (s : String) : (trim s).length ≤ s.length := by
  rw [← String.length_toList, toList_trim, ← String.length_toList]
  exact length_trimList_le isBlank s.toList

theorem trim_of_isTrimmed {s : String} (h : IsTrimmed isBlank s.toList) : trim s = s := by
  unfold trim
  rw [trimList_of_isTrimmed h, String.ofList_toList]

theorem trim_trim (s : String) : trim (trim s) = trim s := by
  apply trim_of_isTrimmed
  rw [toList_trim]
  exact isTrimmed_trimList isBlank s.toList

theorem exists_eq_append_trim (s : String) : ∃ before behind, s = before ++ trim s ++ behind ∧
    isBlankText before = true ∧ isBlankText behind = true := by
  obtain ⟨before, behind, split, front, back⟩ := exists_eq_append_trimList isBlank s.toList
  refine ⟨String.ofList before, String.ofList behind, ?_, ?_, ?_⟩
  · rw [← String.toList_inj, String.toList_append, String.toList_append, toList_trim,
      String.toList_ofList, String.toList_ofList]
    exact split
  · rwa [isBlankText, String.toList_ofList, List.all_eq_true]
  · rwa [isBlankText, String.toList_ofList, List.all_eq_true]

theorem trim_append_append {before behind : String} (s : String)
    (front : isBlankText before = true) (back : isBlankText behind = true) :
    trim (before ++ s ++ behind) = trim s := by
  unfold trim
  rw [String.toList_append, String.toList_append,
    trimList_append_append (List.all_eq_true.1 front) (List.all_eq_true.1 back)]

theorem trim_eq_empty_iff {s : String} : trim s = "" ↔ isBlankText s = true := by
  unfold isBlankText
  rw [← String.toList_eq_nil_iff, toList_trim, trimList_eq_nil_iff, List.all_eq_true]

/-- A text that is blank once it is trimmed is empty then. -/
theorem isBlankText_trim_iff (s : String) : isBlankText (trim s) = true ↔ trim s = "" := by
  rw [← trim_eq_empty_iff, trim_trim]

end CertRenewal.Text
