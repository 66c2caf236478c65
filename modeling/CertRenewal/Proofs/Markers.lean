import CertRenewal.Proofs.Pem

/-
  The two searches for a marker. One finds the first place where the marker stands, in the sense
  that no marker stands in front of it: `cut?_eq_none_iff` and `cut?_append_of_free`. The
  other goes through a text once and may pass a marker over; what it finds is still a marker, and
  what is appended to a text does not change it.
-/

namespace CertRenewal

variable {α : Type}

/-! ## Markers whose places do not overlap -/

/-- The last element of the marker stands nowhere else in it, so that no two of its places in a
list overlap. -/
def EndsOnce (marker : List α) : Prop := ∃ first last, marker = first ++ [last] ∧ last ∉ first

theorem EndsOnce.ne_nil {marker : List α} (once : EndsOnce marker) : marker ≠ [] := by
  obtain ⟨first, last, rfl, -⟩ := once
  exact List.append_ne_nil_of_right_ne_nil _ (List.cons_ne_nil last [])

/-- Where a marker begins in front of another one, it also ends there. -/
theorem EndsOnce.prefix_of_prefix_append {marker before rest : List α} (once : EndsOnce marker)
    (hb : before ≠ []) (h : marker <+: before ++ (marker ++ rest)) : marker <+: before := by
  obtain ⟨first, last, hm, alone⟩ := once
  obtain ⟨after, h⟩ := h
  rcases List.append_eq_append_iff.1 h with ⟨gap, hbefore, -⟩ | ⟨beyond, hmarker, hover⟩
  · exact ⟨gap, hbefore.symm⟩
  -- What reaches over is empty: else its last element stands in the marker behind twice.
  rcases List.eq_nil_or_concat beyond with rfl | ⟨beyond, x, rfl⟩
  · have same : marker = before := by rw [hmarker, List.append_nil]
    exact same ▸ List.prefix_rfl
  · exfalso
    rw [List.concat_eq_append, ← List.append_assoc, hm] at hmarker
    obtain ⟨hfirst, hlast⟩ := List.append_inj' hmarker rfl
    cases hlast
    have shorter : (beyond ++ [last]).length ≤ first.length := by
      have size := List.length_pos_iff.2 hb
      rw [hfirst, List.length_append, List.length_append, List.length_singleton]
      omega
    have here : beyond ++ [last] <+: marker ++ rest := by
      rw [hover, List.concat_eq_append]
      exact List.prefix_append _ _
    have there : first <+: marker ++ rest := by
      rw [hm, List.append_assoc]
      exact List.prefix_append _ _
    have inside : beyond ++ [last] <+: first := List.prefix_of_prefix_length_le here there shorter
    exact alone (inside.subset (List.mem_append_right beyond (List.mem_singleton_self last)))

/-! ## The first place of a marker -/

variable [DecidableEq α]

theorem after?_eq_some_iff {marker l rest : List α} :
    after? marker l = some rest ↔ l = marker ++ rest := by
  constructor
  · exact eq_append_of_after?
  · rintro rfl
    exact after?_append marker rest

theorem after?_eq_none_iff {marker l : List α} : after? marker l = none ↔ ¬ marker <+: l := by
  rw [Option.eq_none_iff_forall_ne_some]
  constructor
  · rintro none ⟨rest, rfl⟩
    exact none rest (after?_append marker rest)
  · intro apart rest found
    rw [after?_eq_some_iff.1 found] at apart
    exact apart (List.prefix_append marker rest)

/-- Nothing is found exactly where no marker stands. -/
theorem cut?_eq_none_iff {marker l : List α} : cut? marker l = none ↔ ¬ marker <:+: l := by
  induction l with
  | nil =>
    rw [cut?, Option.map_eq_none_iff, after?_eq_none_iff, List.prefix_nil, List.infix_nil]
  | cons x l ih =>
    rw [cut?, List.infix_cons_iff, not_or, ← ih, ← after?_eq_none_iff]
    cases after? marker (x :: l) with
    | none => simp
    | some rest => simp

/-- In front of the place that is found stands no marker. -/
theorem not_infix_of_cut? {marker l before rest : List α} (hm : marker ≠ [])
    (h : cut? marker l = some (before, rest)) : ¬ marker <:+: before := by
  induction l generalizing before with
  | nil =>
    rw [cut?, Option.map_eq_some_iff] at h
    obtain ⟨_, -, h⟩ := h
    cases h
    rwa [List.infix_nil]
  | cons x l ih =>
    rw [cut?] at h
    split at h
    · cases h
      rwa [List.infix_nil]
    · rename_i apart
      obtain ⟨⟨before, rest⟩, found, h⟩ := Option.map_eq_some_iff.1 h
      cases h
      rw [List.infix_cons_iff, not_or]
      refine ⟨fun opens => after?_eq_none_iff.1 apart ?_, ih found⟩
      rw [eq_append_of_cut? found, List.append_assoc, ← List.cons_append]
      exact opens.trans (List.prefix_append _ _)

/-- A marker is found behind a part in which no marker stands, even if the part ends with the
beginning of one. -/
theorem cut?_append_of_free {marker before rest : List α} (once : EndsOnce marker)
    (h : ¬ marker <:+: before) : cut? marker (before ++ (marker ++ rest)) = some (before, rest) := by
  induction before with
  | nil => exact cut?_append once.ne_nil rest
  | cons x before ih =>
    rw [List.infix_cons_iff, not_or] at h
    have apart : after? marker (x :: (before ++ (marker ++ rest))) = none :=
      after?_eq_none_iff.2 fun opens =>
        h.1 (once.prefix_of_prefix_append (List.cons_ne_nil x before) opens)
    rw [List.cons_append, cut?, apart, ih h.2]
    rfl

/-- A marker is found behind a part in which no marker begins, also none that would end in the marker
behind it. -/
theorem cut?_append_of_not_infix {marker before : List α} (hm : marker ≠ [])
    (h : ¬ marker <:+: before ++ marker.dropLast) (rest : List α) :
    cut? marker (before ++ (marker ++ rest)) = some (before, rest) := by
  induction before with
  | nil => exact cut?_append hm rest
  | cons x before ih =>
    have apart : after? marker (x :: (before ++ (marker ++ rest))) = none := by
      apply after?_eq_none_iff.2
      intro opens
      have there : x :: before ++ marker.dropLast <+: x :: (before ++ (marker ++ rest)) :=
        List.prefix_append_right_inj (x :: before) |>.2
          ((List.dropLast_prefix marker).trans (List.prefix_append marker rest))
      have shorter : marker.length ≤ (x :: before ++ marker.dropLast).length := by
        rw [List.length_append, List.length_cons, List.length_dropLast]
        omega
      exact h (List.prefix_of_prefix_length_le opens there shorter).isInfix
    have free : ¬ marker <:+: before ++ marker.dropLast :=
      fun inner => h (inner.trans (List.suffix_cons x _).isInfix)
    rw [List.cons_append, cut?, apart, ih free]
    rfl

/-! ## Scanning -/

namespace Pem

/-- What was read ends with the marker. -/
theorem suffix_of_scanFrom? (seen : List α) {marker missing l read rest : List α}
    (hm : marker = seen ++ missing) (h : scanFrom? marker missing l = some (read, rest)) :
    marker <:+ seen ++ read := by
  induction l generalizing seen missing read with
  | nil =>
    cases missing with
    | nil =>
      cases h
      exact hm ▸ List.suffix_rfl
    | cons m missing => cases h
  | cons x l ih =>
    cases missing with
    | nil =>
      cases h
      exact hm ▸ List.suffix_rfl
    | cons m missing =>
      rw [scanFrom?, Option.map_eq_some_iff] at h
      obtain ⟨⟨read, rest⟩, found, h⟩ := h
      cases h
      split at found
      · rename_i same
        subst same
        have longer : marker = (seen ++ [x]) ++ missing := by simpa using hm
        simpa using ih (seen ++ [x]) longer found
      · have whole : marker <:+ read := ih [] rfl found
        exact (whole.trans (List.suffix_cons x read)).trans (List.suffix_append seen _)

/-- The parts that a scan gives, with the marker between them, are the list. -/
theorem eq_append_of_scan? {marker l before rest : List α}
    (h : scan? marker l = some (before, rest)) : l = before ++ (marker ++ rest) := by
  rw [scan?, Option.map_eq_some_iff] at h
  obtain ⟨⟨read, rest⟩, found, h⟩ := h
  cases h
  have ends : marker <:+ read := suffix_of_scanFrom? [] rfl found
  rw [eq_append_of_scanFrom? found, ← List.append_assoc, List.suffix_iff_eq_append.1 ends]

theorem scanFrom?_append_right {marker missing l read rest : List α}
    (h : scanFrom? marker missing l = some (read, rest)) (more : List α) :
    scanFrom? marker missing (l ++ more) = some (read, rest ++ more) := by
  induction l generalizing missing read with
  | nil =>
    cases missing with
    | nil =>
      cases h
      cases more <;> rfl
    | cons m missing => cases h
  | cons x l ih =>
    cases missing with
    | nil =>
      cases h
      rfl
    | cons m missing =>
      rw [scanFrom?, Option.map_eq_some_iff] at h
      obtain ⟨⟨read, rest⟩, found, h⟩ := h
      cases h
      rw [List.cons_append, scanFrom?, ih found]
      rfl

/-- What is appended does not change what a scan finds. -/
theorem scan?_append_right {marker l before rest : List α}
    (h : scan? marker l = some (before, rest)) (more : List α) :
    scan? marker (l ++ more) = some (before, rest ++ more) := by
  rw [scan?, Option.map_eq_some_iff] at h
  obtain ⟨⟨read, rest⟩, found, h⟩ := h
  cases h
  rw [scan?, scanFrom?_append_right found more]
  rfl

end Pem

end CertRenewal
