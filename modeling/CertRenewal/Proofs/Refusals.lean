import CertRenewal.Api.Endpoints

/-
  How the refusal of a body ends. A refusal repeats the values it refuses, so that it is only
  written where these can be: every number has to be one, and no text may be broken. Main
  statements: `utf8_wire_eq_error_iff`, a value has no bytes exactly if one of its texts is
  broken, and `refused`, the three ends of a refusal.
-/

namespace CertRenewal

/-! ## Whole values -/

namespace Json

mutual

/-- Whether no text in a value is broken. -/
def isWhole : Json → Bool
  | broken _ => false
  | list items => allWhole items
  | object fields => fieldsWhole fields
  | _ => true

/-- Whether no text in a list of values is broken. -/
def allWhole : List Json → Bool
  | [] => true
  | v :: items => isWhole v && allWhole items

/-- Whether no text among some fields is broken, their names included. -/
def fieldsWhole : List (Wide × Json) → Bool
  | [] => true
  | (name, v) :: fields => name.isWhole && isWhole v && fieldsWhole fields

end

/-! ## Values and what is in them -/

/-- A property that a list has if all its items have it, and an object if all values of its fields
have it and all their names another one. Texts that are not broken and whole numbers have it. -/
structure IsDeep (P : Json → Bool) (named : Wide → Bool) : Prop where
  text : ∀ s : String, P (.text s) = true
  int : ∀ i : Int, P (.int i) = true
  list : ∀ items, P (.list items) = true ↔ ∀ v ∈ items, P v = true
  object : ∀ fields, P (.object fields) = true ↔ ∀ f ∈ fields, named f.1 = true ∧ P f.2 = true
  name : ∀ s : String, named (.text s) = true

theorem allFinite_iff {items : List Json} :
    allFinite items = true ↔ ∀ v ∈ items, v.isFinite = true := by
  induction items with
  | nil => simp [allFinite]
  | cons v items ih => simp [allFinite, ih]

theorem fieldsFinite_iff {fields : List (Wide × Json)} :
    fieldsFinite fields = true ↔ ∀ f ∈ fields, f.2.isFinite = true := by
  induction fields with
  | nil => simp [fieldsFinite]
  | cons f fields ih => simp [fieldsFinite, ih]

theorem allWhole_iff {items : List Json} :
    allWhole items = true ↔ ∀ v ∈ items, v.isWhole = true := by
  induction items with
  | nil => simp [allWhole]
  | cons v items ih => simp [allWhole, ih]

theorem fieldsWhole_iff {fields : List (Wide × Json)} :
    fieldsWhole fields = true ↔ ∀ f ∈ fields, f.1.isWhole = true ∧ f.2.isWhole = true := by
  induction fields with
  | nil => simp [fieldsWhole]
  | cons f fields ih => simp [fieldsWhole, ih, and_assoc]

theorem isDeep_isFinite : IsDeep isFinite fun _ => true where
  text _ := rfl
  int _ := rfl
  list _ := allFinite_iff
  object fields := by
    rw [isFinite, fieldsFinite_iff]
    simp
  name _ := rfl

theorem isDeep_isWhole : IsDeep isWhole Wide.isWhole where
  text _ := rfl
  int _ := rfl
  list _ := allWhole_iff
  object _ := fieldsWhole_iff
  name _ := rfl

/-! ## Texts over the wire -/

theorem any_isHalf_ofChars (s : List Char) : (Point.ofChars s).any Point.isHalf = false := by
  rw [Point.ofChars, List.any_map]
  exact List.any_eq_false.2 fun _ _ => Bool.false_ne_true

theorem any_isHalf_wirePoint (p : Point) : (wirePoint p).any Point.isHalf = p.isHalf := by
  cases p with
  | half h => rfl
  | char c =>
    unfold wirePoint
    dsimp only
    split
    · exact any_isHalf_ofChars _
    · split
      · exact any_isHalf_ofChars _
      · rfl

theorem any_isHalf_points (w : Wide) : w.points.any Point.isHalf = !w.isWhole := by
  cases w with
  | text s => exact any_isHalf_ofChars s.toList
  | broken b => exact b.broken

/-- A text in quotes has a half in it exactly if it is broken. -/
theorem any_isHalf_quotedPoints (w : Wide) :
    (quotedPoints w).any Point.isHalf = !w.isWhole := by
  rw [quotedPoints, List.cons_append, List.any_cons, List.any_append, List.any_flatMap,
    ← any_isHalf_points]
  simp [any_isHalf_wirePoint]

mutual

/-- The text of a value has a half in it exactly if the value is not whole. -/
theorem any_isHalf_wire (v : Json) :
    (render Point.char quotedPoints v).any Point.isHalf = !v.isWhole := by
  cases v with
  | null => rfl
  | bool b => cases b <;> rfl
  | int i => exact any_isHalf_ofChars (Decimal.intDigits i)
  | real x => exact any_isHalf_ofChars x.chars
  | text s => exact any_isHalf_quotedPoints (.text s)
  | broken b => exact any_isHalf_quotedPoints (.broken b)
  | list items =>
    cases items with
    | nil => rfl
    | cons v items =>
      rw [render, List.cons_append, List.any_cons, List.any_append, any_isHalf_wire v,
        any_isHalf_wireItems items, isWhole, allWhole, Bool.not_and]
      rfl
  | object fields =>
    cases fields with
    | nil => rfl
    | cons field fields =>
      obtain ⟨k, v⟩ := field
      rw [render, isWhole, fieldsWhole]
      simp [any_isHalf_quotedPoints k, any_isHalf_wire v,
        any_isHalf_wireFields fields, Bool.or_assoc]

theorem any_isHalf_wireItems (items : List Json) :
    (renderItems Point.char quotedPoints items).any Point.isHalf = !allWhole items := by
  cases items with
  | nil => rfl
  | cons v items =>
    rw [renderItems, allWhole]
    simp [any_isHalf_wire v, any_isHalf_wireItems items]

theorem any_isHalf_wireFields (fields : List (Wide × Json)) :
    (renderFields Point.char quotedPoints fields).any Point.isHalf = !fieldsWhole fields := by
  cases fields with
  | nil => rfl
  | cons field fields =>
    obtain ⟨k, v⟩ := field
    rw [renderFields, fieldsWhole]
    simp [any_isHalf_quotedPoints k, any_isHalf_wire v,
      any_isHalf_wireFields fields, Bool.or_assoc]

end

/-- A value has no bytes exactly if one of its texts is broken. -/
theorem utf8_wire_eq_error_iff {v : Json} :
    (∃ e, Point.utf8 v.wire = .error e) ↔ v.isWhole = false := by
  rw [Point.utf8_eq_error_iff, ← List.any_eq_true, wire, any_isHalf_wire, Bool.not_eq_true']

/-! ## Values as they are repeated -/

namespace IsDeep

open Api Validation

variable {P : Json → Bool} {named : Wide → Bool}

/-- Such a property of an object is one of what a field of it holds. -/
theorem of_lookup (h : IsDeep P named) {name : Wide} {v : Json} {l : List (Wide × Json)}
    (whole : P (.object l) = true) (found : l.lookup name = some v) : P v = true := by
  obtain ⟨before, after, rfl, -⟩ := List.lookup_eq_some_iff.1 found
  exact ((h.object _).1 whole (name, v) (List.mem_append_right _ List.mem_cons_self)).2

mutual

/-- A value that is repeated keeps such a property. -/
theorem repeated (h : IsDeep P named) {v : Json} (hv : P v = true) : P (Api.repeated v) = true := by
  cases v with
  | list items => exact (h.list _).2 (repeatedItems h ((h.list items).1 hv))
  | object fields => exact (h.object _).2 (repeatedFields h ((h.object fields).1 hv))
  | _ => exact hv

theorem repeatedItems (h : IsDeep P named) {items : List Json} (hv : ∀ v ∈ items, P v = true) :
    ∀ v ∈ Api.repeatedItems items, P v = true := by
  cases items with
  | nil => exact nofun
  | cons v items =>
    obtain ⟨first, others⟩ := List.forall_mem_cons.1 hv
    exact List.forall_mem_cons.2 ⟨repeated h first, repeatedItems h others⟩

theorem repeatedFields (h : IsDeep P named) {fields : List (Wide × Json)}
    (hv : ∀ f ∈ fields, named f.1 = true ∧ P f.2 = true) :
    ∀ f ∈ Api.repeatedFields fields, named f.1 = true ∧ P f.2 = true := by
  cases fields with
  | nil => exact nofun
  | cons field fields =>
    obtain ⟨first, others⟩ := List.forall_mem_cons.1 hv
    rw [Api.repeatedFields]
    split
    · exact repeatedFields h others
    · exact List.forall_mem_cons.2 ⟨⟨first.1, repeated h first.2⟩, repeatedFields h others⟩

end

/-- Of an error only the value that it repeats may be without the property. -/
theorem fieldErrorJson_iff (h : IsDeep P named) (e : FieldError) :
    P (fieldErrorJson e) = true ↔ P (Api.repeated e.input) = true := by
  obtain ⟨place, problem, input⟩ := e
  cases problem <;>
    simp [fieldErrorJson, Problem.context?, Json.record, Json.texts, h.text, h.int, h.list,
      h.object, h.name]

theorem fieldErrorsJson_iff (h : IsDeep P named) {es : List FieldError} :
    P (fieldErrorsJson es) = true ↔ ∀ e ∈ es, P (Api.repeated e.input) = true := by
  simp [fieldErrorsJson, h.list, h.object, h.name, h.fieldErrorJson_iff]

end IsDeep

end Json

/-! ## Refusals -/

namespace Api

open Validation

/-- How a refusal ends: as a response, or as one of two errors if a value cannot be repeated, of
which the one about numbers comes first. -/
inductive Refused (es : List FieldError) : Except EndpointError Response → Prop where
  | answered (finite : ∀ e ∈ es, (repeated e.input).isFinite = true)
      (whole : ∀ e ∈ es, (repeated e.input).isWhole = true) :
      Refused es (.ok (.answer 422 (.object [("detail", .list (es.map fieldErrorJson))])))
  | notCompliant {e : FieldError} (he : e ∈ es) (infinite : (repeated e.input).isFinite = false) :
      Refused es (.error .notCompliant)
  | unencodable {e : FieldError} {u : Unencodable}
      (finite : ∀ e ∈ es, (repeated e.input).isFinite = true) (he : e ∈ es)
      (broken : (repeated e.input).isWhole = false) : Refused es (.error (.unencodable u))

theorem refused (es : List FieldError) : Refused es (refusal es) := by
  unfold refusal
  dsimp only
  split
  · rename_i finite
    have numbers := Json.isDeep_isFinite.fieldErrorsJson_iff.1 finite
    split
    · rename_i written
      refine .answered numbers (Json.isDeep_isWhole.fieldErrorsJson_iff.1 ?_)
      rw [← Bool.not_eq_false, ← Json.utf8_wire_eq_error_iff]
      rintro ⟨e, failed⟩
      cases written.symm.trans failed
    · rename_i failed
      have broken : ¬ (fieldErrorsJson es).isWhole = true := by
        rw [Json.utf8_wire_eq_error_iff.1 ⟨_, failed⟩]
        exact Bool.false_ne_true
      obtain ⟨e, he, broken⟩ : ∃ e ∈ es, (repeated e.input).isWhole = false := by
        simpa [Json.isDeep_isWhole.fieldErrorsJson_iff] using broken
      exact .unencodable numbers he broken
  · rename_i infinite
    obtain ⟨e, he, infinite⟩ : ∃ e ∈ es, (repeated e.input).isFinite = false := by
      simpa [Json.isDeep_isFinite.fieldErrorsJson_iff] using infinite
    exact .notCompliant he infinite

/-- Where all values can be repeated a refusal is a response. -/
theorem refusal_eq_ok (es : List FieldError)
    (finite : ∀ e ∈ es, (repeated e.input).isFinite = true)
    (whole : ∀ e ∈ es, (repeated e.input).isWhole = true) : refusal es = .ok (badFields es) := by
  have shape := refused es
  generalize refusal es = x at shape
  cases shape with
  | answered => rfl
  | notCompliant he infinite => exact absurd (finite _ he) (Bool.eq_false_iff.1 infinite)
  | unencodable _ he broken => exact absurd (whole _ he) (Bool.eq_false_iff.1 broken)

/-- Where all numbers can be repeated, but not all texts, there is no response. -/
theorem exists_refusal_eq_error (es : List FieldError)
    (finite : ∀ e ∈ es, (repeated e.input).isFinite = true)
    (broken : ¬ ∀ e ∈ es, (repeated e.input).isWhole = true) :
    ∃ u, refusal es = .error (.unencodable u) := by
  have shape := refused es
  generalize refusal es = x at shape
  cases shape with
  | answered _ whole => exact absurd whole broken
  | notCompliant he infinite => exact absurd (finite _ he) (Bool.eq_false_iff.1 infinite)
  | unencodable => exact ⟨_, rfl⟩

end Api

end CertRenewal
