import CertRenewal.Proofs.Endpoints
import Mathlib

/-
  The bodies that a renewal is asked for with. Every field is judged by itself: `Offends` says what
  is wrong with one, and the checks of some fields, made one after another, list exactly one error
  for each field that offends, in the order in which they are made (`Lists`). Main statement:
  `renewalFields_exact`, which bodies are accepted and as what, and which errors the others have; a
  body that is not accepted is answered before anything is decided or drawn.
-/

namespace CertRenewal.Api

open Validation

/-! ## Values -/

/-- A value is a text of some kind. -/
inductive IsText : Json → Prop where
  | text (s : String) : IsText (.text s)
  | broken (b : Broken) : IsText (.broken b)

/-- What is wrong with a value that should be a text with a number of characters within bounds. The
characters of a broken text are not counted. -/
inductive RefusesText (least most : Nat) : Json → Problem → Prop where
  | notText {v : Json} (other : ¬ IsText v) : RefusesText least most v .notText
  | brokenText (b : Broken) : RefusesText least most (.broken b) .brokenText
  | tooShort {s : String} (less : s.length < least) :
      RefusesText least most (.text s) (.tooShort least)
  | tooLong {s : String} (enough : least ≤ s.length) (more : most < s.length) :
      RefusesText least most (.text s) (.tooLong most)

/-- What is wrong with a value that should be a name. Only a text whose length is in order can be
refused for being blank. -/
inductive RefusesName : Json → Problem → Prop where
  | bounds {v : Json} {p : Problem} (h : RefusesText 1 63 v p) : RefusesName v p
  | blank {s : String} (enough : 1 ≤ s.length) (short : s.length ≤ 63)
      (blanks : ∀ c ∈ s.toList, Text.isBlank c = true) : RefusesName (.text s) .blank

/-- The flag that a value is taken for: a flag itself, a number that is 0 or 1, or one of the texts
for yes and no in any case. -/
inductive IsFlag : Json → Bool → Prop where
  | bool (b : Bool) : IsFlag (.bool b) b
  | zero : IsFlag (.int 0) false
  | one : IsFlag (.int 1) true
  | realZero {x : Double} (value : x.int? = some 0) : IsFlag (.real x) false
  | realOne {x : Double} (value : x.int? = some 1) : IsFlag (.real x) true
  | yes {s t : String} (listed : t ∈ ["1", "t", "y", "on", "yes", "true"])
      (same : Text.equalIgnoringAsciiCase s t = true) : IsFlag (.text s) true
  | no {s t : String} (listed : t ∈ ["0", "f", "n", "off", "no", "false"])
      (same : Text.equalIgnoringAsciiCase s t = true) : IsFlag (.text s) false

/-- Values of the kinds that flags can be written as: texts that are not broken, and whole numbers
of 64 bits. -/
inductive IsFlagLike : Json → Prop where
  | text (s : String) : IsFlagLike (.text s)
  | int {i : Int} (least : -2 ^ 63 ≤ i) (most : i < 2 ^ 63) : IsFlagLike (.int i)
  | real {x : Double} {i : Int} (value : x.int? = some i) (least : -2 ^ 63 < i)
      (most : i < 2 ^ 63) : IsFlagLike (.real x)

/-- What is wrong with a value that should be a flag: it is called unreadable if it is of a kind
that flags can be written as. -/
inductive RefusesFlag : Json → Problem → Prop where
  | brokenText (b : Broken) : RefusesFlag (.broken b) .brokenText
  | unreadable {v : Json} (other : ∀ b, ¬ IsFlag v b) (like : IsFlagLike v) :
      RefusesFlag v .unreadableFlag
  | notFlag {v : Json} (other : ∀ b, ¬ IsFlag v b) (whole : ∀ b, v ≠ .broken b)
      (unlike : ¬ IsFlagLike v) : RefusesFlag v .notFlag

section Values

variable {v : Json} {p : Problem}

theorem boundedText_eq_error_iff {least most : Nat} :
    boundedText least most v = .error p ↔ RefusesText least most v p := by
  constructor
  · intro h
    cases v with
    | text s =>
      unfold boundedText text at h
      dsimp only [bind, Except.bind] at h
      split at h
      · rename_i less
        obtain rfl := Except.error.inj h
        exact .tooShort less
      · rename_i enough
        split at h
        · rename_i more
          obtain rfl := Except.error.inj h
          exact .tooLong (Nat.not_lt.1 enough) more
        · cases h
    | broken b =>
      obtain rfl := Except.error.inj h
      exact .brokenText b
    | _ =>
      obtain rfl := Except.error.inj h
      exact .notText nofun
  · intro h
    cases h with
    | notText other =>
      cases v with
      | text s => exact absurd (.text s) other
      | broken b => exact absurd (.broken b) other
      | _ => rfl
    | brokenText b => rfl
    | tooShort less =>
      unfold boundedText text
      dsimp only [bind, Except.bind]
      rw [if_pos less]
    | tooLong enough more =>
      unfold boundedText text
      dsimp only [bind, Except.bind]
      rw [if_neg (Nat.not_lt.2 enough), if_pos more]

theorem name_eq_error_iff : name v = .error p ↔ RefusesName v p := by
  have blank_iff : ∀ s : String, Text.isBlankText (Text.trim s) = true ↔
      ∀ c ∈ s.toList, Text.isBlank c = true := by
    intro s
    rw [Text.isBlankText_trim_iff, Text.trim_eq_empty_iff, Text.isBlankText, List.all_eq_true]
  constructor
  · intro h
    unfold name at h
    cases bounded : boundedText 1 maxNameLength v with
    | error q =>
      rw [bounded] at h
      obtain rfl := Except.error.inj h
      exact .bounds (boundedText_eq_error_iff.1 bounded)
    | ok s =>
      obtain ⟨rfl, enough, short⟩ := (boundedText_eq_ok_iff 1 maxNameLength v s).1 bounded
      rw [bounded] at h
      dsimp only [bind, Except.bind] at h
      split at h
      · rename_i blank
        obtain rfl := Except.error.inj h
        exact .blank enough short ((blank_iff s).1 blank)
      · cases h
  · intro h
    unfold name
    cases h with
    | bounds refused =>
      rw [show maxNameLength = 63 from rfl, boundedText_eq_error_iff.2 refused]
      rfl
    | @blank s enough short blanks =>
      rw [(boundedText_eq_ok_iff 1 maxNameLength (.text s) s).2 ⟨rfl, enough, short⟩]
      dsimp only [bind, Except.bind]
      rw [dif_pos ((blank_iff s).2 blanks)]

theorem isWordSized_iff {i : Int} : isWordSized i = true ↔ -2 ^ 63 < i ∧ i < 2 ^ 63 := by
  rw [isWordSized, Bool.and_eq_true, decide_eq_true_eq, decide_eq_true_eq]
  rfl

/-- No text is one for yes and one for no. -/
theorem not_yes_of_no {s : String} (h : noTexts.any (Text.equalIgnoringAsciiCase s) = true) :
    ¬ yesTexts.any (Text.equalIgnoringAsciiCase s) = true := by
  have apart : ∀ no ∈ noTexts, ∀ yes ∈ yesTexts,
      no.toList.map Char.toLower ≠ yes.toList.map Char.toLower := by decide
  intro h'
  obtain ⟨no, listed, same⟩ := List.any_eq_true.1 h
  obtain ⟨yes, listed', same'⟩ := List.any_eq_true.1 h'
  exact apart no listed yes listed' ((beq_iff_eq.1 same).symm.trans (beq_iff_eq.1 same'))

theorem flagOfInteger_eq_ok_iff {i : Int} {b : Bool} :
    flagOfInteger i = .ok b ↔ i = if b then 1 else 0 := by
  unfold flagOfInteger
  split
  · rename_i zero
    cases b <;> simp [zero]
  · split
    · rename_i one
      cases b <;> simp [one]
    · cases b <;> simp_all

theorem flag_eq_ok_iff {b : Bool} : flag v = .ok b ↔ IsFlag v b := by
  constructor
  · intro h
    cases v with
    | bool c =>
      obtain rfl := Except.ok.inj h
      exact .bool c
    | int i =>
      obtain rfl := flagOfInteger_eq_ok_iff.1 h
      cases b
      · exact .zero
      · exact .one
    | real x =>
      unfold flag at h
      dsimp only at h
      split at h
      · rename_i i value
        split at h
        · obtain rfl := flagOfInteger_eq_ok_iff.1 h
          cases b
          · exact .realZero value
          · exact .realOne value
        · cases h
      · cases h
    | text s =>
      unfold flag at h
      dsimp only at h
      split at h
      · rename_i yes
        obtain rfl := Except.ok.inj h
        obtain ⟨t, listed, same⟩ := List.any_eq_true.1 yes
        exact .yes listed same
      · split at h
        · rename_i no
          obtain rfl := Except.ok.inj h
          obtain ⟨t, listed, same⟩ := List.any_eq_true.1 no
          exact .no listed same
        · cases h
    | _ => cases h
  · intro h
    cases h with
    | bool => rfl
    | zero => rfl
    | one => rfl
    | realZero value =>
      unfold flag
      dsimp only
      rw [value]
      rfl
    | realOne value =>
      unfold flag
      dsimp only
      rw [value]
      rfl
    | yes listed same => exact if_pos (List.any_eq_true.2 ⟨_, listed, same⟩)
    | no listed same =>
      have no := List.any_eq_true.2 ⟨_, listed, same⟩
      exact (if_neg (not_yes_of_no no)).trans (if_pos no)

theorem flagOfInteger_eq_error {i : Int} (h : flagOfInteger i = .error p) :
    (-2 ^ 63 ≤ i ∧ i < 2 ^ 63) ∧ p = .unreadableFlag ∨
      ¬ (-2 ^ 63 ≤ i ∧ i < 2 ^ 63) ∧ p = .notFlag := by
  have sized : (isWordSized i || i = leastWord) = true ↔ -2 ^ 63 ≤ i ∧ i < 2 ^ 63 := by
    rw [Bool.or_eq_true, isWordSized_iff, decide_eq_true_eq, leastWord]
    omega
  unfold flagOfInteger at h
  split at h
  · cases h
  · split at h
    · cases h
    · obtain rfl := Except.error.inj h
      by_cases fits : -2 ^ 63 ≤ i ∧ i < 2 ^ 63
      · exact .inl ⟨fits, if_pos (sized.2 fits)⟩
      · exact .inr ⟨fits, if_neg (mt sized.1 fits)⟩

/-- A value that is no flag, nor a broken text, is called unreadable if it is of a kind that flags
can be written as. -/
theorem flagLike_of_flag_eq_error (h : flag v = .error p) :
    (∃ b, v = .broken b ∧ p = .brokenText) ∨ IsFlagLike v ∧ p = .unreadableFlag ∨
      (∀ b, v ≠ .broken b) ∧ ¬ IsFlagLike v ∧ p = .notFlag := by
  cases v with
  | bool b => cases h
  | int i =>
    refine .inr ((flagOfInteger_eq_error h).imp ?_ ?_)
    · rintro ⟨⟨least, most⟩, rfl⟩
      exact ⟨.int least most, rfl⟩
    · rintro ⟨large, rfl⟩
      exact ⟨nofun, fun | .int least most => large ⟨least, most⟩, rfl⟩
  | real x =>
    unfold flag at h
    dsimp only at h
    split at h
    · rename_i i value
      split at h
      · rename_i sized
        have bounds := isWordSized_iff.1 sized
        rcases flagOfInteger_eq_error h with ⟨-, rfl⟩ | ⟨large, -⟩
        · exact .inr (.inl ⟨.real value bounds.1 bounds.2, rfl⟩)
        · exact absurd ⟨bounds.1.le, bounds.2⟩ large
      · rename_i large
        obtain rfl := Except.error.inj h
        refine .inr (.inr ⟨nofun, ?_, rfl⟩)
        rintro (_ | _ | ⟨value', least, most⟩)
        obtain rfl := Option.some.inj (value.symm.trans value')
        exact large (isWordSized_iff.2 ⟨least, most⟩)
    · rename_i broken
      obtain rfl := Except.error.inj h
      refine .inr (.inr ⟨nofun, ?_, rfl⟩)
      rintro (_ | _ | ⟨value, -, -⟩)
      rw [broken] at value
      cases value
  | text s =>
    unfold flag at h
    dsimp only at h
    split at h
    · cases h
    · split at h
      · cases h
      · obtain rfl := Except.error.inj h
        exact .inr (.inl ⟨.text s, rfl⟩)
  | broken b =>
    obtain rfl := Except.error.inj h
    exact .inl ⟨b, rfl, rfl⟩
  | _ =>
    obtain rfl := Except.error.inj h
    exact .inr (.inr ⟨nofun, nofun, rfl⟩)

theorem flag_eq_error_iff : flag v = .error p ↔ RefusesFlag v p := by
  constructor
  · intro h
    have other : ∀ b, ¬ IsFlag v b := by
      intro b flagged
      rw [flag_eq_ok_iff.2 flagged] at h
      cases h
    rcases flagLike_of_flag_eq_error h with ⟨b, rfl, rfl⟩ | ⟨like, rfl⟩ | ⟨whole, unlike, rfl⟩
    · exact .brokenText b
    · exact .unreadable other like
    · exact .notFlag other whole unlike
  · intro h
    cases h with
    | brokenText b => rfl
    | unreadable other like =>
      cases found : flag v with
      | ok b => exact absurd (flag_eq_ok_iff.1 found) (other b)
      | error q =>
        rcases flagLike_of_flag_eq_error found with ⟨b, rfl, -⟩ | ⟨-, rfl⟩ | ⟨-, unlike, -⟩
        · cases like
        · rfl
        · exact absurd like unlike
    | notFlag other whole unlike =>
      cases found : flag v with
      | ok b => exact absurd (flag_eq_ok_iff.1 found) (other b)
      | error q =>
        rcases flagLike_of_flag_eq_error found with ⟨b, broken, -⟩ | ⟨like, -⟩ | ⟨-, -, rfl⟩
        · exact absurd broken (whole b)
        · exact absurd like unlike
        · rfl

theorem wideText_eq_error_iff : wideText v = .error p ↔ ¬ IsText v ∧ p = .notText := by
  constructor
  · intro h
    cases v with
    | text s => cases h
    | broken b => cases h
    | _ => exact ⟨nofun, (Except.error.inj h).symm⟩
  · rintro ⟨other, rfl⟩
    cases v with
    | text s => exact absurd (.text s) other
    | broken b => exact absurd (.broken b) other
    | _ => rfl

theorem nullable_eq_error_iff {α : Type} {check : Json → Except Problem α} :
    nullable check v = .error p ↔ v ≠ .null ∧ check v = .error p := by
  by_cases null : v = .null
  · rw [null]
    exact iff_of_false nofun fun h => h.1 rfl
  · rw [nullable_of_ne_null check null, and_iff_right null]
    cases check v with
    | ok a => exact iff_of_false nofun nofun
    | error q =>
      constructor
      · intro h
        exact congrArg Except.error (Except.error.inj h)
      · intro h
        exact congrArg Except.error (Except.error.inj h)

end Values

/-! ## Fields -/

/-- The fields of the body of a renewal. -/
inductive Field where
  | certificate
  | privateKey
  | service
  | namespaceName
  | apiServerHost
  | fullName
  | force
deriving DecidableEq, Repr

namespace Field

/-- All fields, in the order in which they are checked. -/
def all : List Field :=
  [certificate, privateKey, service, namespaceName, apiServerHost, fullName, force]

/-- The name of a field in a body. -/
def key : Field → String
  | certificate => "certificate_pem"
  | privateKey => "private_key_pem"
  | service => "service"
  | namespaceName => "namespace"
  | apiServerHost => "api_server_host"
  | fullName => "use_fqdn_as_common_name"
  | force => "force"

/-- The value of a field in a body, if it is there. -/
def value? (body : Json) (f : Field) : Option Json := body.field? f.key

/-- The field has to be there. -/
def IsNeeded (f : Field) : Prop := f = service ∨ f = namespaceName

instance (f : Field) : Decidable f.IsNeeded := inferInstanceAs (Decidable (_ ∨ _))

/-- What is wrong with a value of a field. Where null stands for a missing value it is not
wrong. -/
def Refuses : Field → Json → Problem → Prop
  | certificate, v, p | privateKey, v, p => v ≠ .null ∧ ¬ IsText v ∧ p = .notText
  | service, v, p | namespaceName, v, p => RefusesName v p
  | apiServerHost, v, p => RefusesText 0 253 v p
  | fullName, v, p => v ≠ .null ∧ RefusesFlag v p
  | force, v, p => RefusesFlag v p

end Field

/-- The error that a field of a body has: it is missing, with the body shown, or its value is wrong,
with the value shown. -/
inductive Offends (body : Json) (f : Field) : FieldError → Prop where
  | missing (needed : f.IsNeeded) (absent : f.value? body = none) :
      Offends body f ⟨["body", f.key], .missing, body⟩
  | wrong {v : Json} {p : Problem} (given : f.value? body = some v) (refused : f.Refuses v p) :
      Offends body f ⟨["body", f.key], p, v⟩

/-- The errors of some fields: exactly one for each field that has one, in the order of the
fields. -/
def Lists (body : Json) (fields : List Field) (es : List FieldError) : Prop :=
  ∃ offending, offending.Sublist fields ∧
    (∀ f ∈ fields, f ∈ offending ↔ ∃ e, Offends body f e) ∧
    List.Forall₂ (Offends body) offending es

variable {body : Json}

theorem Lists.append {fs gs : List Field} {es es' : List FieldError} (h : Lists body fs es)
    (h' : Lists body gs es') : Lists body (fs ++ gs) (es ++ es') := by
  obtain ⟨offending, part, exact_part, one⟩ := h
  obtain ⟨offending', part', exact_part', one'⟩ := h'
  refine ⟨offending ++ offending', part.append part', ?_, List.rel_append one one'⟩
  intro f hf
  rw [List.mem_append] at hf ⊢
  rcases hf with hf | hf
  · rw [← exact_part f hf]
    refine ⟨fun found => ?_, .inl⟩
    rcases found with found | found
    · exact found
    · exact (exact_part f hf).2 ((exact_part' f (part'.subset found)).1 found)
  · rw [← exact_part' f hf]
    refine ⟨fun found => ?_, .inr⟩
    rcases found with found | found
    · exact (exact_part' f hf).2 ((exact_part f (part.subset found)).1 found)
    · exact found

theorem lists_nil {f : Field} (h : ∀ e, ¬ Offends body f e) : Lists body [f] [] := by
  refine ⟨[], List.nil_sublist _, fun g hg => ?_, .nil⟩
  obtain rfl := List.mem_singleton.1 hg
  exact iff_of_false List.not_mem_nil fun ⟨e, offends⟩ => h e offends

theorem lists_singleton {f : Field} {e : FieldError} (h : Offends body f e) :
    Lists body [f] [e] := by
  refine ⟨[f], List.Sublist.refl _, fun g hg => ?_, .cons h .nil⟩
  obtain rfl := List.mem_singleton.1 hg
  exact iff_of_true hg ⟨e, h⟩

/-- A check of some fields finds their errors, and a value if there are none. -/
structure Finds {α : Type} (body : Json) (fields : List Field) (x : Checked α) : Prop where
  lists : Lists body fields x.errors
  proper : ∀ es, x = .bad es → es ≠ []

namespace Finds

variable {α β : Type} {fs gs : List Field}

theorem map {x : Checked α} (h : Finds body fs x) (f : α → β) : Finds body fs (f <$> x) where
  lists := by
    rw [Checked.errors_map]
    exact h.lists
  proper := by
    intro es bad
    cases x with
    | good a => cases bad
    | bad found =>
      obtain rfl := Checked.bad.inj bad
      exact h.proper found rfl

theorem seq {f : Checked (α → β)} {x : Checked α} (hf : Finds body fs f) (hx : Finds body gs x) :
    Finds body (fs ++ gs) (f <*> x) where
  lists := by
    rw [Checked.errors_seq]
    exact hf.lists.append hx.lists
  proper := by
    intro es bad
    cases f with
    | bad found =>
      rw [Checked.seq_bad] at bad
      obtain rfl := Checked.bad.inj bad
      exact List.append_ne_nil_of_left_ne_nil (hf.proper found rfl) _
    | good g =>
      cases x with
      | good a => cases bad
      | bad found =>
        obtain rfl := Checked.bad.inj bad
        exact hx.proper found rfl

section Field

variable {f : Field} {check : Json → Except Problem α}

theorem checkAt {v : Json} (given : f.value? body = some v)
    (sound : ∀ p, check v = .error p ↔ f.Refuses v p) :
    Finds body [f] (Validation.checkAt ["body", f.key] check v) := by
  have wrong : ∀ e, Offends body f e → ∃ p, check v = .error p := by
    intro e offends
    cases offends with
    | missing _ absent => cases absent.symm.trans given
    | wrong given' refused =>
      obtain rfl := Option.some.inj (given.symm.trans given')
      exact ⟨_, (sound _).2 refused⟩
  unfold Validation.checkAt
  cases found : check v with
  | ok a =>
    refine ⟨lists_nil fun e offends => ?_, nofun⟩
    obtain ⟨p, failed⟩ := wrong e offends
    cases found.symm.trans failed
  | error p =>
    refine ⟨lists_singleton (.wrong given ((sound p).1 found)), ?_⟩
    rintro es bad
    obtain rfl := Checked.bad.inj bad
    exact List.cons_ne_nil _ _

theorem required (needed : f.IsNeeded) (sound : ∀ v p, check v = .error p ↔ f.Refuses v p) :
    Finds body [f] (Api.required body f.key check) := by
  unfold Api.required
  split
  · rename_i v given
    exact checkAt given (sound v)
  · rename_i absent
    refine ⟨lists_singleton (.missing needed absent), ?_⟩
    rintro es bad
    obtain rfl := Checked.bad.inj bad
    exact List.cons_ne_nil _ _

theorem optional (free : ¬ f.IsNeeded) (sound : ∀ v p, check v = .error p ↔ f.Refuses v p)
    (other : α) : Finds body [f] (Api.optional body f.key check other) := by
  unfold Api.optional
  split
  · rename_i v given
    exact checkAt given (sound v)
  · rename_i absent
    refine ⟨lists_nil fun e offends => ?_, nofun⟩
    cases offends with
    | missing needed _ => exact free needed
    | wrong given _ => cases absent.symm.trans given

end Field

end Finds

/-- The checks of a renewal find the errors of all its fields. -/
theorem finds_renewalFields : Finds body Field.all (renewalFields body) := by
  have texts : ∀ f : Field, f = .certificate ∨ f = .privateKey → ∀ v p,
      nullable wideText v = .error p ↔ f.Refuses v p := by
    rintro f (rfl | rfl) v p <;>
    · rw [nullable_eq_error_iff, wideText_eq_error_iff]
      rfl
  have names : ∀ f : Field, f.IsNeeded → ∀ v p, name v = .error p ↔ f.Refuses v p := by
    rintro f (rfl | rfl) v p <;> exact name_eq_error_iff
  have host : ∀ v p, boundedText 0 maxHostLength v = .error p ↔ Field.apiServerHost.Refuses v p :=
    fun v p => boundedText_eq_error_iff
  have fullName : ∀ v p, nullable flag v = .error p ↔ Field.fullName.Refuses v p := by
    intro v p
    rw [nullable_eq_error_iff, flag_eq_error_iff]
    rfl
  have force : ∀ v p, flag v = .error p ↔ Field.force.Refuses v p := fun v p => flag_eq_error_iff
  have certificate : Finds body [.certificate]
      (optional body "certificate_pem" (nullable wideText) none) :=
    .optional (by decide) (texts .certificate (.inl rfl)) none
  have privateKey : Finds body [.privateKey]
      (optional body "private_key_pem" (nullable wideText) none) :=
    .optional (by decide) (texts .privateKey (.inr rfl)) none
  have service : Finds body [.service] (required body "service" name) :=
    .required (.inl rfl) (names .service (.inl rfl))
  have namespaceName : Finds body [.namespaceName] (required body "namespace" name) :=
    .required (.inr rfl) (names .namespaceName (.inr rfl))
  have apiServerHost : Finds body [.apiServerHost]
      (optional body "api_server_host" (boundedText 0 maxHostLength) "") :=
    .optional (by decide) host ""
  have fullName : Finds body [.fullName]
      (optional body "use_fqdn_as_common_name" (nullable flag) none) :=
    .optional (by decide) fullName none
  have force : Finds body [.force] (optional body "force" flag false) :=
    .optional (by decide) force false
  have pair : Finds body [.certificate, .privateKey] (pairFields body) :=
    (certificate.map PairBody.mk).seq privateKey
  exact ((((pair.map RenewalBody.mk).seq service).seq namespaceName).seq apiServerHost).seq fullName
    |>.seq force

/-! ## Accepted bodies -/

/-- What a name is taken for: a text of 1 to 63 characters, blanks around it counted, that is not
blank, without the blanks. -/
inductive IsName : Option Json → Name → Prop where
  | text {s : String} {n : Name} (enough : 1 ≤ s.length) (short : s.length ≤ 63)
      (something : ∃ c ∈ s.toList, Text.isBlank c = false) (trimmed : n.text = Text.trim s) :
      IsName (some (.text s)) n

/-- What a host is taken for. -/
inductive IsHost : Option Json → String → Prop where
  | absent : IsHost none ""
  | text {s : String} (short : s.length ≤ 253) : IsHost (some (.text s)) s

/-- What a flag that may be missing, or null, is taken for. -/
inductive IsOptionalFlag : Option Json → Option Bool → Prop where
  | absent : IsOptionalFlag none none
  | null : IsOptionalFlag (some .null) none
  | flag {v : Json} {b : Bool} (h : IsFlag v b) : IsOptionalFlag (some v) (some b)

/-- What a flag that may be missing, but not null, is taken for. -/
inductive IsForce : Option Json → Bool → Prop where
  | absent : IsForce none false
  | flag {v : Json} {b : Bool} (h : IsFlag v b) : IsForce (some v) b

/-- A body with these values is accepted, and says this. -/
structure Accepts (values : Field → Option Json) (b : RenewalBody) : Prop where
  certificate : IsOptionalText (values .certificate) b.pair.certificate
  privateKey : IsOptionalText (values .privateKey) b.pair.privateKey
  service : IsName (values .service) b.service
  namespaceName : IsName (values .namespaceName) b.namespaceName
  apiServerHost : IsHost (values .apiServerHost) b.apiServerHost
  fullName : IsOptionalFlag (values .fullName) b.useFullName
  force : IsForce (values .force) b.force

theorem requiredName_eq_good_iff {key : String} {n : Name} :
    required body key name = .good n ↔ IsName (body.field? key) n := by
  refine required_eq_good_iff nofun fun v => ?_
  rw [name_eq_ok_iff]
  have something_iff : ∀ s : String, Text.trim s ≠ "" ↔ ∃ c ∈ s.toList, Text.isBlank c = false := by
    intro s
    rw [Ne, Text.trim_eq_empty_iff, Text.isBlankText, List.all_eq_true]
    simp
  constructor
  · rintro ⟨enough, short, something, trimmed⟩
    exact ⟨_, rfl, enough, short, (something_iff _).2 something, trimmed⟩
  · rintro ⟨s, rfl, enough, short, something, trimmed⟩
    exact .text enough short ((something_iff s).1 something) trimmed

theorem optionalHost_eq_good_iff {key : String} {host : String} :
    optional body key (boundedText 0 maxHostLength) "" = .good host ↔
      IsHost (body.field? key) host := by
  refine optional_eq_good_iff ⟨fun | .absent => rfl, fun h => h ▸ .absent⟩ fun v => ?_
  rw [boundedText_eq_ok_iff]
  constructor
  · rintro (_ | short)
    exact ⟨rfl, Nat.zero_le _, short⟩
  · rintro ⟨rfl, -, short⟩
    exact .text short

theorem optionalFlag_eq_good_iff {key : String} {b : Option Bool} :
    optional body key (nullable flag) none = .good b ↔ IsOptionalFlag (body.field? key) b := by
  refine optional_eq_good_iff ⟨fun | .absent => rfl, fun h => h ▸ .absent⟩ fun v => ?_
  rw [nullable_eq_ok_iff]
  constructor
  · rintro (_ | _ | flagged)
    · exact .inl ⟨rfl, rfl⟩
    · refine .inr ⟨?_, _, flag_eq_ok_iff.2 flagged, rfl⟩
      rintro rfl
      cases flagged
  · rintro (⟨rfl, rfl⟩ | ⟨-, b, accepted, rfl⟩)
    · exact .null
    · exact .flag (flag_eq_ok_iff.1 accepted)

theorem force_eq_good_iff {key : String} {b : Bool} :
    optional body key flag false = .good b ↔ IsForce (body.field? key) b := by
  refine optional_eq_good_iff ⟨fun | .absent => rfl, fun h => h ▸ .absent⟩ fun v => ?_
  rw [flag_eq_ok_iff]
  exact ⟨fun | .flag h => h, .flag⟩

/-- A body is accepted as what it says. -/
theorem renewalFields_eq_good_iff {b : RenewalBody} :
    renewalFields body = .good b ↔ Accepts (Field.value? body) b := by
  constructor
  · intro h
    unfold renewalFields at h
    obtain ⟨_, force, given₁, accepted₁, rfl⟩ := Checked.seq_eq_good h
    obtain ⟨_, fullName, given₂, accepted₂, rfl⟩ := Checked.seq_eq_good given₁
    obtain ⟨_, host, given₃, accepted₃, rfl⟩ := Checked.seq_eq_good given₂
    obtain ⟨_, namespaceName, given₄, accepted₄, rfl⟩ := Checked.seq_eq_good given₃
    obtain ⟨_, service, given₅, accepted₅, rfl⟩ := Checked.seq_eq_good given₄
    obtain ⟨_, accepted₆, rfl⟩ := Checked.map_eq_good given₅
    obtain ⟨certificate, key⟩ := pairFields_eq_good_iff.1 accepted₆
    exact ⟨certificate, key, requiredName_eq_good_iff.1 accepted₅,
      requiredName_eq_good_iff.1 accepted₄, optionalHost_eq_good_iff.1 accepted₃,
      optionalFlag_eq_good_iff.1 accepted₂, force_eq_good_iff.1 accepted₁⟩
  · intro h
    have pair : pairFields body = .good _ :=
      pairFields_eq_good_iff.2 ⟨h.certificate, h.privateKey⟩
    have service : required body "service" name = .good _ :=
      requiredName_eq_good_iff.2 h.service
    have namespaceName : required body "namespace" name = .good _ :=
      requiredName_eq_good_iff.2 h.namespaceName
    have host : optional body "api_server_host" (boundedText 0 maxHostLength) "" = .good _ :=
      optionalHost_eq_good_iff.2 h.apiServerHost
    have fullName : optional body "use_fqdn_as_common_name" (nullable flag) none = .good _ :=
      optionalFlag_eq_good_iff.2 h.fullName
    have force : optional body "force" flag false = .good _ := force_eq_good_iff.2 h.force
    unfold renewalFields
    rw [pair, service, namespaceName, host, fullName, force]
    rfl

/-! ## Bodies as a whole -/

/-- A text without blanks at its ends, and with something in it that is no longer than a name may
be. -/
def IsStripped (s : String) : Prop := s ≠ "" ∧ s.length ≤ 63 ∧ Text.trim s = s

theorem IsName.isStripped {v : Option Json} {n : Name} (h : IsName v n) : IsStripped n.text := by
  cases h with
  | @text s _ enough short something trimmed =>
    have size := Text.length_trim_le s
    rw [trimmed]
    refine ⟨?_, by omega, Text.trim_trim s⟩
    rw [Ne, Text.trim_eq_empty_iff]
    intro blank
    obtain ⟨c, hc, solid⟩ := something
    rw [List.all_eq_true.1 blank c hc] at solid
    cases solid

/-- An object is accepted as what its fields say, by each field's own rule. What is accepted has
stripped names that make an identity, and fields that are not those of a renewal change nothing. An
object that is not accepted has exactly one error for each field that offends, in the order of the
fields; a request with it is refused with these errors before anything is decided or drawn, and the
refusal is answered if all that it repeats can be written. -/
theorem renewalFields_exact (l : List (Wide × Json)) :
    (∀ b, checkBody renewalFields (some (.object l)) = .good b ↔
        Accepts (Field.value? (.object l)) b) ∧
      (∀ b, Accepts (Field.value? (.object l)) b →
        IsStripped b.service.text ∧ IsStripped b.namespaceName.text ∧
        Identity.make b.service.text b.namespaceName.text b.apiServerHost = .ok b.identity ∧
        ∀ other, Field.value? (.object other) = Field.value? (.object l) →
          checkBody renewalFields (some (.object other)) = .good b) ∧
      ((∀ b, ¬ Accepts (Field.value? (.object l)) b) →
        ∃ es, es ≠ [] ∧ checkBody renewalFields (some (.object l)) = .bad es ∧
          Lists (.object l) Field.all es ∧
          ∀ (c : Context) (s : Lifecycle.Service) (r : Request), route r = .endpoint .renewal →
            c.service = some s → bodyValue r = .ok (some (.object l)) →
            (respond c r).events = [] ∧ Refused es (respond c r).outcome ∧
              ((Json.object l).isFinite = true → (Json.object l).isWhole = true →
                (respond c r).outcome =
                  .ok (.answer 422 (.object [("detail", .list (es.map fieldErrorJson))])))) := by
  have accepted : ∀ {other b}, checkBody renewalFields (some (.object other)) = .good b ↔
      Accepts (Field.value? (.object other)) b := renewalFields_eq_good_iff
  refine ⟨fun b => accepted, ?_, ?_⟩
  · intro b accepts
    refine ⟨accepts.service.isStripped, accepts.namespaceName.isStripped, b.make_identity, ?_⟩
    intro other same
    rw [accepted, same]
    exact accepts
  · intro none
    have finds : Finds (.object l) Field.all (renewalFields (.object l)) := finds_renewalFields
    cases checked : renewalFields (.object l) with
    | good b => exact absurd (renewalFields_eq_good_iff.1 checked) (none b)
    | bad es =>
      have inputs := fun {P} (has : Has P (.object l)) => refuses_renewalFields has
      rw [checked] at finds inputs
      refine ⟨es, finds.proper es rfl, checked, finds.lists, ?_⟩
      intro c s r routed installed read
      have answer : respond c r = Telemetry.Traced.ofExcept (refusal es) := by
        rw [respond_renewal routed installed read]
        unfold checkBody
        dsimp only
        rw [checked]
        rfl
      rw [answer]
      exact ⟨rfl, refused es, fun finite whole =>
        refusal_eq_ok _ (inputs (has_repeated Json.isDeep_isFinite finite))
          (inputs (has_repeated Json.isDeep_isWhole whole))⟩

/-- A body with a name of blanks, no namespace, and null where a flag has to be. -/
def refusedText : String := "\x7b\"service\": \"  \", \"force\": null\x7d"

/-- The fields of this body. -/
def refusedFields : List (Wide × Json) := [("service", .text "  "), ("force", .null)]

set_option maxRecDepth 20000 in
theorem parse_refusedText :
    Json.parse (Point.ofChars refusedText.toList) = .ok (.object refusedFields) := by cbv

theorem bodyValue_refusedText :
    bodyValue (jsonRequest .renewal refusedText) = .ok (some (.object refusedFields)) :=
  bodyValue_jsonRequest (by decide +kernel) (by decide +kernel) parse_refusedText .renewal

/-- The errors of this body. -/
def refusedErrors : List FieldError :=
  [⟨["body", "service"], .blank, .text "  "⟩,
    ⟨["body", "namespace"], .missing, .object refusedFields⟩,
    ⟨["body", "force"], .notFlag, .null⟩]

/-- What is said of the three fields. -/
def refusedComplaints : List Json :=
  [.record [("type", .text "value_error"), ("loc", .list [.text "body", .text "service"]),
      ("msg", .text "Value error, must not be blank"), ("input", .text "  "),
      ("ctx", .object [("error", .object [])])],
    .record [("type", .text "missing"), ("loc", .list [.text "body", .text "namespace"]),
      ("msg", .text "Field required"), ("input", .object refusedFields)],
    .record [("type", .text "bool_type"), ("loc", .list [.text "body", .text "force"]),
      ("msg", .text "Input should be a valid boolean"), ("input", .null)]]

/-- A body that is refused for three of its fields, beside one that is accepted with a field that
means nothing. -/
theorem renewalFields_exact_refusedText :
    (checkBody renewalFields (some (.object (("colour", .null) :: sampleFields))) =
          .good sampleRenewal ∧
      IsStripped sampleRenewal.service.text) ∧
    (Lists (.object refusedFields) Field.all refusedErrors ∧
      (respond sampleContext (jsonRequest .renewal refusedText)).events = [] ∧
      (respond sampleContext (jsonRequest .renewal refusedText)).outcome =
        .ok (.answer 422 (.object [("detail", .list refusedComplaints)]))) := by
  constructor
  · obtain ⟨accepted, good, -⟩ := renewalFields_exact sampleFields
    have accepts := (accepted sampleRenewal).1 rfl
    obtain ⟨stripped, -, -, others⟩ := good sampleRenewal accepts
    refine ⟨others _ ?_, stripped⟩
    funext f
    cases f <;> rfl
  · obtain ⟨accepted, -, refused⟩ := renewalFields_exact refusedFields
    have checked : checkBody renewalFields (some (.object refusedFields)) = .bad refusedErrors :=
      rfl
    have none : ∀ b, ¬ Accepts (Field.value? (.object refusedFields)) b := by
      intro b accepts
      cases checked.symm.trans ((accepted b).2 accepts)
    obtain ⟨es, -, found, lists, answer⟩ := refused none
    obtain rfl := Checked.bad.inj (found.symm.trans checked)
    obtain ⟨quiet, -, told⟩ := answer sampleContext .standard (jsonRequest .renewal refusedText)
      (route_jsonRequest .renewal refusedText) rfl bodyValue_refusedText
    have complaints : refusedErrors.map fieldErrorJson = refusedComplaints := rfl
    rw [complaints] at told
    exact ⟨lists, quiet, told rfl rfl⟩

/-- A body in which the service is half of a surrogate pair. -/
def brokenNameText : String := "\x7b\"service\": \"\\ud800\", \"namespace\": \"d\"\x7d"

/-- The fields of this body. -/
def brokenNameFields : List (Wide × Json) :=
  [("service", .broken brokenKey), ("namespace", .text "d")]

set_option maxRecDepth 20000 in
theorem parse_brokenNameText :
    Json.parse (Point.ofChars brokenNameText.toList) = .ok (.object brokenNameFields) := by cbv

/-- The service is a text of one point, which is no blank, the namespace is in order, and no other
field is there; but the body is refused for the service, and the refusal is not answered. -/
theorem not_accepts_brokenName :
    ((Json.object brokenNameFields).field? "service" = some (.ofWide (.broken brokenKey)) ∧
      (Wide.broken brokenKey).points.length = 1 ∧
      (∀ p ∈ (Wide.broken brokenKey).points, ∀ c, p = .char c → Text.isBlank c = false) ∧
      (Json.object brokenNameFields).field? "namespace" = some (.text "d") ∧
      ∀ f : Field, ¬ f.IsNeeded → f.value? (.object brokenNameFields) = none) ∧
    checkBody renewalFields (some (.object brokenNameFields)) =
        .bad [⟨["body", "service"], .brokenText, .broken brokenKey⟩] ∧
      ∃ u, (respond sampleContext (jsonRequest .renewal brokenNameText)).outcome =
        .error (.unencodable u) := by
  have read : bodyValue (jsonRequest .renewal brokenNameText) =
      .ok (some (.object brokenNameFields)) :=
    bodyValue_jsonRequest (by decide +kernel) (by decide +kernel) parse_brokenNameText .renewal
  refine ⟨⟨rfl, rfl, ?_, rfl, ?_⟩, rfl, ?_⟩
  · intro p hp c same
    obtain rfl := List.mem_singleton.1 hp
    cases same
  · intro f free
    cases f with
    | service => exact absurd (.inl rfl) free
    | namespaceName => exact absurd (.inr rfl) free
    | _ => rfl
  · rw [respond_renewal (route_jsonRequest .renewal brokenNameText) rfl read]
    exact exists_refusal_eq_error [⟨["body", "service"], .brokenText, .broken brokenKey⟩]
      (by decide) (by decide)

end CertRenewal.Api
