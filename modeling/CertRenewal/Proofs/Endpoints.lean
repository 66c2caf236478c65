import CertRenewal.Proofs.Events
import CertRenewal.Proofs.Refusals
import CertRenewal.Proofs.Renewals

/-
  The two endpoints beside each other, on the same body and by the same clock. The fields of a
  check are the first ones of a renewal, so that a renewal reports the problems a check reports,
  and more behind them. Main statement: `endpoints_agree`. A renewal that is answered begins its
  answer with that of the check, and what fails for an accepted body fails for both. A check that
  refuses a body is followed in it by the renewal, which lists the same problems first; but its
  refusal repeats more of the body, and where a text in that is broken it cannot be written.
-/

namespace CertRenewal

open Telemetry Lifecycle Rotation

/-! ## Problems with fields -/

namespace Validation.Checked

variable {α β : Type} {P : Json → Prop}

theorem map_bad (f : α → β) (es : List FieldError) : f <$> (bad es : Checked α) = bad es := rfl

theorem seq_bad (es : List FieldError) (x : Checked α) :
    (bad es : Checked (α → β)) <*> x = bad (es ++ x.errors) := by
  cases x with
  | good a => exact congrArg bad (List.append_nil es).symm
  | bad fs => rfl

/-- The values that were refused have a property. -/
def Refuses (P : Json → Prop) (x : Checked α) : Prop := ∀ e ∈ x.errors, P e.input

theorem Refuses.map {x : Checked α} (h : x.Refuses P) (f : α → β) : (f <$> x).Refuses P := by
  unfold Refuses
  rw [errors_map]
  exact h

theorem Refuses.seq {f : Checked (α → β)} {x : Checked α} (hf : f.Refuses P)
    (hx : x.Refuses P) : (f <*> x).Refuses P := by
  unfold Refuses
  rw [errors_seq]
  exact List.forall_mem_append.2 ⟨hf, hx⟩

theorem refuses_checkAt {place : List String} {check : Json → Except Problem α} {v : Json}
    (h : P v) : (checkAt place check v).Refuses P := by
  intro e he
  unfold checkAt at he
  split at he
  · cases he
  · obtain rfl := List.mem_singleton.1 he
    exact h

end Validation.Checked

namespace Api

open Validation

section Fields

variable {α : Type} {P : Json → Prop} {body : Json} {l : List (Wide × Json)}

/-- A body and the values of its fields have a property. -/
structure Has (P : Json → Prop) (body : Json) : Prop where
  whole : P body
  field : ∀ name v, body.field? name = some v → P v

theorem has_repeated {Q : Json → Bool} {named : Wide → Bool} (deep : Json.IsDeep Q named)
    (h : Q (.object l) = true) : Has (fun v => Q (repeated v) = true) (.object l) where
  whole := deep.repeated h
  field _ _ found := deep.repeated (deep.of_lookup h found)

theorem refuses_required (h : Has P body) (field : String) (check : Json → Except Problem α) :
    (required body field check).Refuses P := by
  unfold required
  split
  · rename_i v found
    exact Checked.refuses_checkAt (h.field field v found)
  · intro e he
    obtain rfl := List.mem_singleton.1 he
    exact h.whole

theorem refuses_optional (h : Has P body) (field : String) (check : Json → Except Problem α)
    (other : α) : (optional body field check other).Refuses P := by
  unfold optional
  split
  · rename_i v found
    exact Checked.refuses_checkAt (h.field field v found)
  · intro e he
    cases he

theorem refuses_pairFields (h : Has P body) : (pairFields body).Refuses P :=
  ((refuses_optional h _ _ _).map _).seq (refuses_optional h _ _ _)

theorem refuses_renewalFields (h : Has P body) : (renewalFields body).Refuses P := by
  have pair := (refuses_pairFields h).map RenewalBody.mk
  have service := pair.seq (refuses_required h "service" name)
  have names := service.seq (refuses_required h "namespace" name)
  have host := names.seq (refuses_optional h "api_server_host" (boundedText 0 maxHostLength) "")
  have fullName := host.seq (refuses_optional h "use_fqdn_as_common_name" (nullable flag) none)
  exact fullName.seq (refuses_optional h "force" flag false)

end Fields

/-- A renewal that is refused for its pair has the problems of the pair first. -/
theorem renewalFields_of_bad {body : Json} {es : List FieldError}
    (h : pairFields body = .bad es) : ∃ more, renewalFields body = .bad (es ++ more) := by
  unfold renewalFields
  rw [h, Checked.map_bad, Checked.seq_bad, Checked.seq_bad, Checked.seq_bad, Checked.seq_bad,
    Checked.seq_bad]
  simp only [List.append_assoc]
  exact ⟨_, rfl⟩

/-- An accepted renewal is about an accepted pair. -/
theorem pairFields_of_good {body : Json} {b : RenewalBody} (h : renewalFields body = .good b) :
    pairFields body = .good b.pair := by
  unfold renewalFields at h
  obtain ⟨_, force, given₁, -, rfl⟩ := Checked.seq_eq_good h
  obtain ⟨_, fullName, given₂, -, rfl⟩ := Checked.seq_eq_good given₁
  obtain ⟨_, host, given₃, -, rfl⟩ := Checked.seq_eq_good given₂
  obtain ⟨_, namespaceName, given₄, -, rfl⟩ := Checked.seq_eq_good given₃
  obtain ⟨_, service, given₅, -, rfl⟩ := Checked.seq_eq_good given₄
  obtain ⟨pair, accepted, rfl⟩ := Checked.map_eq_good given₅
  exact accepted

/-! ## The pair of a body -/

/-- The text that a private key stands for; a missing one, or null, for the empty text. -/
inductive IsKeyText : Option Json → String → Prop where
  | absent : IsKeyText none ""
  | null : IsKeyText (some .null) ""
  | text (s : String) : IsKeyText (some (.text s)) s

/-- The pair that a body speaks of with a certificate and a private key. Without a certificate, or
with null for it, there is none, whatever private key is named; a text, be it empty, stands for its
bytes. -/
inductive IsPairOf : Option Json → Option Json → Option Pair → Prop where
  | absent (key : Option Json) : IsPairOf none key none
  | null (key : Option Json) : IsPairOf (some .null) key none
  | texts {certificate s : String} {key : Option Json} (h : IsKeyText key s) :
      IsPairOf (some (.text certificate)) key
        (some ⟨Utf8.ofString certificate, Utf8.ofString s⟩)

/-- Why a body speaks of no pair that could have bytes: the certificate is broken, or the private
key is that stands beside one. -/
inductive LacksBytes : Option Json → Option Json → Unencodable → Prop where
  | certificate {b : Broken} {key : Option Json} {e : Unencodable}
      (h : (Wide.broken b).utf8 = .error e) : LacksBytes (some (.broken b)) key e
  | privateKey {certificate : String} {b : Broken} {e : Unencodable}
      (h : (Wide.broken b).utf8 = .error e) :
      LacksBytes (some (.text certificate)) (some (.broken b)) e

section Pairs

variable {certificate key : Option Json} {b : PairBody}

theorem pair_eq_error_of_brokenKey {c : String} {k : Broken} {e : Unencodable}
    (h : (Wide.broken k).utf8 = .error e) :
    PairBody.pair ⟨some (.text c), some (.broken k)⟩ = .error e := by
  unfold PairBody.pair
  dsimp only
  rw [Wide.utf8_text]
  dsimp only [Option.getD_some, bind, Except.bind]
  rw [h]

theorem pair_eq_error_of_brokenCertificate {c : Broken} {k : Option Wide} {e : Unencodable}
    (h : (Wide.broken c).utf8 = .error e) :
    PairBody.pair ⟨some (.broken c), k⟩ = .error e := by
  unfold PairBody.pair
  dsimp only
  rw [h]
  rfl

/-- The pair of an accepted body, or why there is none. -/
theorem pair_cases (first : IsOptionalText certificate b.certificate)
    (second : IsOptionalText key b.privateKey) :
    (∃ pair, b.pair = .ok pair ∧ IsPairOf certificate key pair) ∨
      ∃ e, b.pair = .error e ∧ LacksBytes certificate key e := by
  obtain ⟨c, k⟩ := b
  cases first with
  | absent => exact .inl ⟨none, rfl, .absent key⟩
  | null => exact .inl ⟨none, rfl, .null key⟩
  | broken c =>
    obtain ⟨e, failed⟩ := Wide.exists_utf8_broken c
    exact .inr ⟨e, pair_eq_error_of_brokenCertificate failed, .certificate failed⟩
  | text c =>
    cases second with
    | absent => exact .inl ⟨_, PairBody.pair_of_texts c "" rfl, .texts .absent⟩
    | null => exact .inl ⟨_, PairBody.pair_of_texts c "" rfl, .texts .null⟩
    | text k => exact .inl ⟨_, PairBody.pair_of_texts c k rfl, .texts (.text k)⟩
    | broken k =>
      obtain ⟨e, failed⟩ := Wide.exists_utf8_broken k
      exact .inr ⟨e, pair_eq_error_of_brokenKey failed, .privateKey failed⟩

theorem IsPairOf.unique {pair other : Option Pair} (h : IsPairOf certificate key pair)
    (h' : IsPairOf certificate key other) : pair = other := by
  cases h with
  | absent => cases h'; rfl
  | null => cases h'; rfl
  | texts same =>
    cases h' with
    | texts same' => cases same <;> cases same' <;> rfl

theorem LacksBytes.unique {e f : Unencodable} (h : LacksBytes certificate key e)
    (h' : LacksBytes certificate key f) : e = f := by
  cases h with
  | certificate failed =>
    cases h' with
    | certificate failed' => exact Except.error.inj (failed.symm.trans failed')
  | privateKey failed =>
    cases h' with
    | privateKey failed' => exact Except.error.inj (failed.symm.trans failed')

theorem LacksBytes.not_isPairOf {e : Unencodable} {pair : Option Pair}
    (h : LacksBytes certificate key e) : ¬ IsPairOf certificate key pair := by
  intro h'
  cases h with
  | certificate => cases h'
  | privateKey =>
    cases h' with
    | texts broken => cases broken

theorem pair_eq_ok_iff (first : IsOptionalText certificate b.certificate)
    (second : IsOptionalText key b.privateKey) {pair : Option Pair} :
    b.pair = .ok pair ↔ IsPairOf certificate key pair := by
  rcases pair_cases first second with ⟨p, paired, is⟩ | ⟨e, failed, lacks⟩
  · rw [paired]
    exact ⟨fun h => Except.ok.inj h ▸ is, fun h => congrArg Except.ok (is.unique h)⟩
  · rw [failed]
    exact iff_of_false nofun lacks.not_isPairOf

theorem pair_eq_error_iff (first : IsOptionalText certificate b.certificate)
    (second : IsOptionalText key b.privateKey) {e : Unencodable} :
    b.pair = .error e ↔ LacksBytes certificate key e := by
  rcases pair_cases first second with ⟨p, paired, is⟩ | ⟨f, failed, lacks⟩
  · rw [paired]
    exact iff_of_false nofun fun h => h.not_isPairOf is
  · rw [failed]
    exact ⟨fun h => Except.error.inj h ▸ lacks, fun h => congrArg Except.error (lacks.unique h)⟩

end Pairs

/-! ## What is said of a pair -/

/-- What is said of a field that should be a text: nothing if it is one, broken or not, or null, or
missing, and else one thing. -/
inductive Complains (key : String) : Option Json → List Json → Prop where
  | fine {v : Option Json} {t : Option Wide} (h : IsOptionalText v t) : Complains key v []
  | wrong {v : Json} (other : ∀ t, ¬ IsOptionalText (some v) t) :
      Complains key (some v) [.record [("type", .text "string_type"),
        ("loc", .list [.text "body", .text key]), ("msg", .text "Input should be a valid string"),
        ("input", repeated v)]]

theorem complains (body : Json) (key : String) :
    Complains key (body.field? key)
      ((optional body key (nullable wideText) none).errors.map fieldErrorJson) := by
  unfold optional
  cases body.field? key with
  | none => exact .fine .absent
  | some v =>
    cases v with
    | null => exact .fine .null
    | text s => exact .fine (.text s)
    | broken b => exact .fine (.broken b)
    | _ => exact .wrong nofun

/-- The response that lists some complaints. -/
def listing (items : List Json) : Response := .answer 422 (.object [("detail", .list items)])

theorem badFields_eq_listing (es : List FieldError) :
    badFields es = listing (es.map fieldErrorJson) := rfl

theorem exists_complains {body : Json} {es : List FieldError} (h : pairFields body = .bad es) :
    ∃ first second, Complains "certificate_pem" (body.field? "certificate_pem") first ∧
      Complains "private_key_pem" (body.field? "private_key_pem") second ∧
      es.map fieldErrorJson = first ++ second := by
  refine ⟨_, _, complains body "certificate_pem", complains body "private_key_pem", ?_⟩
  have errors : (pairFields body).errors = es := by
    rw [h]
    rfl
  rw [← errors, pairFields, Checked.errors_seq, Checked.errors_map, List.map_append]

/-! ## What the endpoints do -/

section Serve

variable {c : Context} {s : Service} {r : Request} {v : Option Json}

theorem ask_of_read {α : Type} {fields : Json → Checked α}
    {f : Service → α → Traced EndpointError Response} (installed : c.service = some s)
    (read : bodyValue r = .ok v) : ask c r fields f = onChecked (checkBody fields v) (f s) := by
  unfold ask
  rw [read]
  dsimp only
  rw [installed]

theorem respond_check (routed : route r = .endpoint .rotationCheck)
    (installed : c.service = some s) (read : bodyValue r = .ok v) :
    respond c r = onChecked (checkBody pairFields v) (rotationCheck s c.clock) := by
  unfold respond serve
  rw [routed]
  exact ask_of_read installed read

theorem respond_renewal (routed : route r = .endpoint .renewal)
    (installed : c.service = some s) (read : bodyValue r = .ok v) :
    respond c r = onChecked (checkBody renewalFields v) (renewal s c.source c.clock) := by
  unfold respond serve
  rw [routed]
  exact ask_of_read installed read

theorem eq_badFields_of_refusal {es : List FieldError} {x : Response} (h : refusal es = .ok x) :
    x = badFields es := by
  have shape := refused es
  rw [h] at shape
  cases shape
  rfl

variable {clock : Moment} {source : Rsa.KeySource}

theorem outcome_rotationCheck {b : PairBody} {pair : Option Pair} (paired : b.pair = .ok pair) :
    (rotationCheck s clock b).outcome =
      ((s.check pair (.clock clock)).outcome.mapError EndpointError.evaluation).map fun d =>
        .answer 200 (.record (decisionFields d)) := by
  unfold rotationCheck
  rw [paired, Traced.outcome_bind]
  dsimp only [Except.mapError, Traced.ofExcept, Except.bind]
  rw [Traced.bind_pure_eq]
  rfl

theorem outcome_rotationCheck_of_unencodable {b : PairBody} {e : Unencodable}
    (unpaired : b.pair = .error e) :
    (rotationCheck s clock b).outcome = .error (.unencodable e) := by
  unfold rotationCheck
  rw [unpaired]
  rfl

theorem outcome_renewal_of_evaluation_error {b : RenewalBody} {pair : Option Pair}
    {e : EvaluationError} (paired : b.pair.pair = .ok pair)
    (h : (s.policy.evaluate pair (.clock clock)).outcome = .error e) :
    (renewal s source clock b).outcome = .error (.evaluation e) := by
  rw [outcome_renewal paired, Service.outcome_renew_of_error h]

/-- A renewal that succeeds begins its answer with the decision. -/
theorem exists_decision_of_renewal {b : RenewalBody} {x : Response}
    (h : (renewal s source clock b).outcome = .ok x) (good : x.status = 200) :
    ∃ pair d key request, b.pair.pair = .ok pair ∧
      (s.check pair (.clock clock)).outcome = .ok d ∧
      x = .answer 200 (.record (decisionFields d ++
        [("private_key_pem", key), ("certificate_signing_request", request)])) := by
  cases paired : b.pair.pair with
  | error e =>
    rw [renewal_of_unencodable paired] at h
    cases h
  | ok pair =>
    cases decided : (s.policy.evaluate pair (.clock clock)).outcome with
    | error e =>
      rw [outcome_renewal_of_evaluation_error paired decided] at h
      cases h
    | ok d =>
      obtain ⟨y, answered, ending⟩ : ∃ y, (renewal s source clock b).outcome = .ok y ∧
        Ends s source b d y := exists_ends paired decided
      obtain rfl := Except.ok.inj (answered.symm.trans h)
      obtain ⟨key, request, fields, told, rfl⟩ : ∃ key request, Reports d key request y := by
        cases ending with
        | kept _ told => exact ⟨_, _, told⟩
        | issued _ _ _ told => exact ⟨_, _, told⟩
        | keyFailed _ _ refused =>
          obtain ⟨error, rfl⟩ := refused
          cases good
        | requestFailed _ _ _ refused =>
          obtain ⟨error, rfl⟩ := refused
          cases good
      rw [told.unique (tells d)]
      exact ⟨pair, d, key, request, rfl, (Service.outcome_check s pair _).trans decided, rfl⟩

variable {l : List (Wide × Json)} {body : Json}

/-- The answer to an accepted check, by the decision of the service. -/
theorem outcome_check_of_good {p : PairBody} {pair : Option Pair}
    (accepted : pairFields body = .good p) (paired : p.pair = .ok pair) :
    (onChecked (pairFields body) (rotationCheck s clock)).outcome =
      ((s.check pair (.clock clock)).outcome.mapError EndpointError.evaluation).map fun d =>
        .answer 200 (.record (decisionFields d)) := by
  rw [accepted]
  exact outcome_rotationCheck paired

/-- A renewal that succeeds begins its answer with that of the check. -/
theorem check_of_renewal {x : Response}
    (h : (onChecked (renewalFields body) (renewal s source clock)).outcome = .ok x)
    (good : x.status = 200) :
    ∃ pair d fields key request,
      IsPairOf (body.field? "certificate_pem") (body.field? "private_key_pem") pair ∧
      (s.check pair (.clock clock)).outcome = .ok d ∧ Tells d fields ∧
      (onChecked (pairFields body) (rotationCheck s clock)).outcome =
        .ok (.answer 200 (.record fields)) ∧
      x = .answer 200 (.record (fields ++
        [("private_key_pem", key), ("certificate_signing_request", request)])) := by
  cases accepted : renewalFields body with
  | bad es =>
    rw [accepted] at h
    rw [eq_badFields_of_refusal h] at good
    cases good
  | good b =>
    rw [accepted] at h
    obtain ⟨pair, d, key, request, paired, decided, reported⟩ := exists_decision_of_renewal h good
    have acceptedPair := pairFields_of_good accepted
    obtain ⟨first, second⟩ := pairFields_eq_good_iff.1 acceptedPair
    refine ⟨pair, d, _, key, request, (pair_eq_ok_iff first second).1 paired, decided, tells d, ?_,
      reported⟩
    rw [outcome_check_of_good acceptedPair paired, decided]
    rfl

/-- A check that succeeds is not one that refuses. -/
theorem pairFields_bad_of_refused {y : Response}
    (h : (onChecked (pairFields body) (rotationCheck s clock)).outcome = .ok y)
    (refused : y.status = 422) : ∃ es, pairFields body = .bad es ∧ refusal es = .ok y := by
  cases accepted : pairFields body with
  | bad es =>
    rw [accepted] at h
    exact ⟨es, rfl, h⟩
  | good p =>
    cases paired : p.pair with
    | error e =>
      rw [accepted] at h
      cases (outcome_rotationCheck_of_unencodable paired).symm.trans h
    | ok pair =>
      rw [outcome_check_of_good accepted paired] at h
      cases decided : (s.check pair (.clock clock)).outcome with
      | error e =>
        rw [decided] at h
        cases h
      | ok d =>
        rw [decided] at h
        obtain rfl := Except.ok.inj h
        cases refused

/-- What a check refuses a renewal refuses, with the same complaints first, and all of them are
written if no text in them is broken. -/
theorem renewal_of_refused_check {y : Response} (finite : (Json.object l).isFinite = true)
    (h : (onChecked (pairFields (.object l)) (rotationCheck s clock)).outcome = .ok y)
    (refused : y.status = 422) :
    ∃ first second more es,
      Complains "certificate_pem" ((Json.object l).field? "certificate_pem") first ∧
      Complains "private_key_pem" ((Json.object l).field? "private_key_pem") second ∧
      y = listing (first ++ second) ∧
      renewalFields (.object l) = .bad es ∧
      es.map fieldErrorJson = first ++ second ++ more ∧
      (Json.allWhole more = true →
        (onChecked (renewalFields (.object l)) (renewal s source clock)).outcome =
          .ok (listing (first ++ second ++ more))) ∧
      (Json.allWhole more = false →
        ∃ u, (onChecked (renewalFields (.object l)) (renewal s source clock)).outcome =
          .error (.unencodable u)) ∧
      ((Json.object l).isWhole = true → Json.allWhole more = true) := by
  obtain ⟨es, refusedPair, written⟩ := pairFields_bad_of_refused h refused
  obtain ⟨first, second, saidFirst, saidSecond, said⟩ := exists_complains refusedPair
  obtain ⟨more, all⟩ := renewalFields_of_bad refusedPair
  have inputs := fun {P} (has : Has P (.object l)) => refuses_renewalFields has
  rw [all] at inputs
  have numbers : ∀ e ∈ es ++ more, (repeated e.input).isFinite = true :=
    inputs (has_repeated Json.isDeep_isFinite finite)
  have whole : ∀ e ∈ es, (repeated e.input).isWhole = true := by
    have shape := Api.refused es
    rw [written] at shape
    cases shape with
    | answered _ whole => exact whole
  have items : (es ++ more).map fieldErrorJson = first ++ second ++ more.map fieldErrorJson := by
    rw [List.map_append, said]
  have wholeMore : Json.allWhole (more.map fieldErrorJson) = true ↔
      ∀ e ∈ more, (repeated e.input).isWhole = true := by
    rw [Json.allWhole_iff, List.forall_mem_map]
    simp only [Json.isDeep_isWhole.fieldErrorJson_iff]
  refine ⟨first, second, more.map fieldErrorJson, es ++ more, saidFirst, saidSecond, ?_, all, items,
    fun good => ?_, fun bad => ?_, fun good => ?_⟩
  · rw [eq_badFields_of_refusal written, badFields_eq_listing, said]
  · rw [all, ← items, ← badFields_eq_listing]
    exact refusal_eq_ok _ numbers (List.forall_mem_append.2 ⟨whole, wholeMore.1 good⟩)
  · rw [all]
    refine exists_refusal_eq_error _ numbers fun all => ?_
    rw [wholeMore.2 (List.forall_mem_append.1 all).2] at bad
    cases bad
  · exact wholeMore.2 (List.forall_mem_append.1 (inputs (has_repeated Json.isDeep_isWhole good))).2

/-- What an endpoint fails with that fails for want of bytes, or else when the service comes to no
decision, and only then. -/
theorem eq_error_iff {certificate key : Option Json} {b : PairBody} (clock : Moment)
    {o : Except EndpointError Response} (first : IsOptionalText certificate b.certificate)
    (second : IsOptionalText key b.privateKey)
    (unpaired : ∀ u, b.pair = .error u → o = .error (.unencodable u))
    (failed : ∀ pair f, b.pair = .ok pair → (s.check pair (.clock clock)).outcome = .error f →
      o = .error (.evaluation f))
    (answered : ∀ pair d, b.pair = .ok pair → (s.check pair (.clock clock)).outcome = .ok d →
      ∃ y, o = .ok y) (e : EndpointError) :
    o = .error e ↔ (∃ u, e = .unencodable u ∧ LacksBytes certificate key u) ∨
      ∃ pair f, e = .evaluation f ∧ IsPairOf certificate key pair ∧
        (s.check pair (.clock clock)).outcome = .error f := by
  simp only [← pair_eq_ok_iff first second, ← pair_eq_error_iff first second]
  cases paired : b.pair with
  | error u =>
    rw [unpaired u paired]
    constructor
    · intro h
      exact .inl ⟨u, (Except.error.inj h).symm, rfl⟩
    · rintro (⟨_, rfl, same⟩ | ⟨_, _, -, same, -⟩)
      · rw [Except.error.inj same]
      · cases same
  | ok pair =>
    cases decided : (s.check pair (.clock clock)).outcome with
    | error f =>
      rw [failed pair f paired decided]
      constructor
      · intro h
        exact .inr ⟨pair, f, (Except.error.inj h).symm, rfl, decided⟩
      · rintro (⟨_, -, same⟩ | ⟨_, _, rfl, same, decided'⟩)
        · cases same
        · obtain rfl := Except.ok.inj same
          rw [Except.error.inj (decided.symm.trans decided')]
    | ok d =>
      obtain ⟨y, rfl⟩ := answered pair d paired decided
      refine iff_of_false nofun ?_
      rintro (⟨_, -, same⟩ | ⟨_, _, -, same, decided'⟩)
      · cases same
      · obtain rfl := Except.ok.inj same
        cases decided.symm.trans decided'

/-- An accepted check leaves no response exactly when its pair has no bytes or the service comes to
no decision on it. -/
theorem check_eq_error_iff {p : PairBody} (accepted : pairFields body = .good p)
    (e : EndpointError) :
    (onChecked (pairFields body) (rotationCheck s clock)).outcome = .error e ↔
      (∃ u, e = .unencodable u ∧
        LacksBytes (body.field? "certificate_pem") (body.field? "private_key_pem") u) ∨
      ∃ pair f, e = .evaluation f ∧
        IsPairOf (body.field? "certificate_pem") (body.field? "private_key_pem") pair ∧
        (s.check pair (.clock clock)).outcome = .error f := by
  obtain ⟨first, second⟩ := pairFields_eq_good_iff.1 accepted
  refine eq_error_iff clock first second ?_ ?_ ?_ e
  · intro u unpaired
    rw [accepted]
    exact outcome_rotationCheck_of_unencodable unpaired
  · intro pair f paired failed
    rw [outcome_check_of_good accepted paired, failed]
    rfl
  · intro pair d paired decided
    rw [outcome_check_of_good accepted paired, decided]
    exact ⟨_, rfl⟩

/-- So does an accepted renewal, forced or not. -/
theorem renewal_eq_error_iff {b : RenewalBody} (accepted : renewalFields body = .good b)
    (e : EndpointError) :
    (onChecked (renewalFields body) (renewal s source clock)).outcome = .error e ↔
      (∃ u, e = .unencodable u ∧
        LacksBytes (body.field? "certificate_pem") (body.field? "private_key_pem") u) ∨
      ∃ pair f, e = .evaluation f ∧
        IsPairOf (body.field? "certificate_pem") (body.field? "private_key_pem") pair ∧
        (s.check pair (.clock clock)).outcome = .error f := by
  obtain ⟨first, second⟩ := pairFields_eq_good_iff.1 (pairFields_of_good accepted)
  rw [accepted]
  refine eq_error_iff clock first second ?_ ?_ ?_ e
  · intro u unpaired
    exact congrArg Traced.outcome (renewal_of_unencodable unpaired)
  · intro pair f paired failed
    rw [Service.outcome_check] at failed
    exact outcome_renewal_of_evaluation_error paired failed
  · intro pair d paired decided
    rw [Service.outcome_check] at decided
    obtain ⟨x, answered, -⟩ := exists_ends paired decided
    exact ⟨x, answered⟩

end Serve

/-! ## The endpoints agree -/

/-- A check and a renewal with the same object for a body, asked of the same service by the same
clock, where all numbers of the body are numbers. A renewal that is answered with 200 begins its
answer with the whole of the check's: the decision, its reason, the end of the certificate and
what is left until then, as the service decides on the pair that the body speaks of. A check that
is answered with 422 has complaints about the two texts, and the renewal is refused with the same
complaints first; its refusal is written with 422 too if no text in what it lists is broken, and not
at all if one is. And when both bodies are accepted, the two endpoints fail with the same errors,
forced or not: that the pair has no bytes, or the errors of the service. -/
theorem endpoints_agree {c : Context} {s : Service} {checking renewing : Request}
    {l : List (Wide × Json)} (to_check : route checking = .endpoint .rotationCheck)
    (to_renewal : route renewing = .endpoint .renewal) (installed : c.service = some s)
    (read_check : bodyValue checking = .ok (some (.object l)))
    (read_renewal : bodyValue renewing = .ok (some (.object l)))
    (finite : (Json.object l).isFinite = true) :
    (∀ x, (respond c renewing).outcome = .ok x → x.status = 200 →
      ∃ pair d fields key request,
        IsPairOf ((Json.object l).field? "certificate_pem")
          ((Json.object l).field? "private_key_pem") pair ∧
        (s.check pair (.clock c.clock)).outcome = .ok d ∧ Tells d fields ∧
        (respond c checking).outcome = .ok (.answer 200 (.record fields)) ∧
        x = .answer 200 (.record (fields ++
          [("private_key_pem", key), ("certificate_signing_request", request)]))) ∧
      (∀ y, (respond c checking).outcome = .ok y → y.status = 422 →
        ∃ first second more es,
          Complains "certificate_pem" ((Json.object l).field? "certificate_pem") first ∧
          Complains "private_key_pem" ((Json.object l).field? "private_key_pem") second ∧
          y = .answer 422 (.object [("detail", .list (first ++ second))]) ∧
          checkBody renewalFields (some (.object l)) = .bad es ∧
          es.map fieldErrorJson = first ++ second ++ more ∧
          (Json.allWhole more = true → (respond c renewing).outcome =
            .ok (.answer 422 (.object [("detail", .list (first ++ second ++ more))]))) ∧
          (Json.allWhole more = false →
            ∃ u, (respond c renewing).outcome = .error (.unencodable u)) ∧
          ((Json.object l).isWhole = true → Json.allWhole more = true)) ∧
      ∀ p b, checkBody pairFields (some (.object l)) = .good p →
        checkBody renewalFields (some (.object l)) = .good b →
        ∀ e, ((respond c checking).outcome = .error e ↔ (respond c renewing).outcome = .error e) ∧
          ((respond c checking).outcome = .error e ↔
            (∃ u, e = .unencodable u ∧ LacksBytes ((Json.object l).field? "certificate_pem")
              ((Json.object l).field? "private_key_pem") u) ∨
            ∃ pair f, e = .evaluation f ∧
              IsPairOf ((Json.object l).field? "certificate_pem")
                ((Json.object l).field? "private_key_pem") pair ∧
              (s.check pair (.clock c.clock)).outcome = .error f) := by
  rw [respond_check to_check installed read_check,
    respond_renewal to_renewal installed read_renewal]
  refine ⟨fun x => check_of_renewal, fun y => renewal_of_refused_check finite, ?_⟩
  intro p b accepted_check accepted_renewal e
  exact ⟨(check_eq_error_iff accepted_check e).trans (renewal_eq_error_iff accepted_renewal e).symm,
    check_eq_error_iff accepted_check e⟩

theorem exists_answer_sample :
    ∃ x, (respond sampleContext (jsonRequest .renewal sampleText)).outcome = .ok x ∧
      x.status = 200 := by
  rw [respond_of_good (b := sampleRenewal) (route_jsonRequest .renewal sampleText) rfl
    (bodyValue_sampleText .renewal) rfl]
  obtain ⟨m, done⟩ := exists_built_sample
  obtain ⟨x, answered, ends⟩ := exists_ends (s := .standard) (b := sampleRenewal)
    pair_sampleRenewal outcome_evaluate_barePair
  refine ⟨x, answered, ?_⟩
  cases ends with
  | kept stay => cases stay
  | issued _ _ _ told =>
    obtain ⟨_, -, rfl⟩ := told
    rfl
  | keyFailed _ drawn => cases drawn
  | requestFailed _ drawn failed =>
    cases drawn
    cases done.symm.trans failed

/-- A body with a list for a certificate. -/
def listText : String := "\x7b\"certificate_pem\": []\x7d"

/-- What the body says. -/
def listFields : List (Wide × Json) := [("certificate_pem", .list [])]

set_option maxRecDepth 20000 in
theorem parse_listText :
    Json.parse (Point.ofChars listText.toList) = .ok (.object listFields) := by cbv

theorem bodyValue_listText (e : Endpoint) :
    bodyValue (jsonRequest e listText) = .ok (some (.object listFields)) :=
  bodyValue_jsonRequest (by decide +kernel) (by decide +kernel) parse_listText e

/-- What is said of the list. -/
def listComplaint : Json :=
  .record [("type", .text "string_type"), ("loc", .list [.text "body", .text "certificate_pem"]),
    ("msg", .text "Input should be a valid string"), ("input", .list [])]

/-- A certificate in its last day, and a list in the place of one. -/
theorem endpoints_agree_sample :
    (∃ key request, (respond sampleContext (jsonRequest .rotationCheck sampleText)).outcome =
        .ok (.answer 200 (.record
          [("rotate", .bool true), ("reason", .text "within_reserve_window"),
            ("not_after", .text "2026-01-02T00:00:00+00:00"),
            ("remaining_seconds", .real (.finite false 5937355918042726 (-36)))])) ∧
      (respond sampleContext (jsonRequest .renewal sampleText)).outcome =
        .ok (.answer 200 (.record
          [("rotate", .bool true), ("reason", .text "within_reserve_window"),
            ("not_after", .text "2026-01-02T00:00:00+00:00"),
            ("remaining_seconds", .real (.finite false 5937355918042726 (-36))),
            ("private_key_pem", key), ("certificate_signing_request", request)]))) ∧
    ∃ more, (respond sampleContext (jsonRequest .rotationCheck listText)).outcome =
        .ok (.answer 422 (.object [("detail", .list [listComplaint])])) ∧
      (respond sampleContext (jsonRequest .renewal listText)).outcome =
        .ok (.answer 422 (.object [("detail", .list (listComplaint :: more))])) := by
  constructor
  · obtain ⟨x, answered, good⟩ := exists_answer_sample
    obtain ⟨pair, d, fields, key, request, is, decided, told, checked, rfl⟩ :=
      (endpoints_agree (c := sampleContext) (route_jsonRequest .rotationCheck sampleText)
        (route_jsonRequest .renewal sampleText) rfl (bodyValue_sampleText .rotationCheck)
        (bodyValue_sampleText .renewal) rfl).1 x answered good
    have is : IsPairOf (some (.text barePem)) none pair := is
    obtain rfl : some barePair = pair := by
      cases is with
      | texts key =>
        cases key
        rfl
    rw [Service.outcome_check] at decided
    obtain rfl := Except.ok.inj (outcome_evaluate_barePair.symm.trans decided)
    cases told with
    | withinReserve nearest =>
      obtain rfl := nearest.unique (Double.isNearest_ofMillionths 86399900000)
      exact ⟨key, request, checked, answered⟩
  · have checked : (respond sampleContext (jsonRequest .rotationCheck listText)).outcome =
        .ok (listing [listComplaint]) := by
      rw [respond_check (route_jsonRequest .rotationCheck listText) rfl
        (bodyValue_listText .rotationCheck)]
      exact refusal_eq_ok [⟨["body", "certificate_pem"], .notText, .list []⟩] (by decide)
        (by decide)
    obtain ⟨first, second, more, es, saidFirst, saidSecond, same, -, -, listed, -, whole⟩ :=
      (endpoints_agree (c := sampleContext) (route_jsonRequest .rotationCheck listText)
        (route_jsonRequest .renewal listText) rfl (bodyValue_listText .rotationCheck)
        (bodyValue_listText .renewal) rfl).2.1 _ checked rfl
    have saidSecond : Complains "private_key_pem" none second := saidSecond
    obtain rfl : second = [] := by
      cases saidSecond
      rfl
    have same : [listComplaint] = first := by
      simpa [listing] using same
    subst same
    exact ⟨more, checked, listed (whole rfl)⟩

/-- The body with a broken text in a field that means nothing. -/
def brokenFieldText : String := "\x7b\"certificate_pem\": [], \"x\": \"\\ud800\"\x7d"

/-- What the body says. -/
def brokenFieldFields : List (Wide × Json) :=
  [("certificate_pem", .list []), ("x", .broken brokenKey)]

set_option maxRecDepth 20000 in
theorem parse_brokenFieldText :
    Json.parse (Point.ofChars brokenFieldText.toList) = .ok (.object brokenFieldFields) := by cbv

theorem bodyValue_brokenFieldText (e : Endpoint) :
    bodyValue (jsonRequest e brokenFieldText) = .ok (some (.object brokenFieldFields)) :=
  bodyValue_jsonRequest (by decide +kernel) (by decide +kernel) parse_brokenFieldText e

/-- The check answers with its complaint about the list, but the renewal, which misses two fields
and shows the body for each, is not answered. -/
theorem not_endpoints_agree_brokenField :
    (Json.object brokenFieldFields).isFinite = true ∧
      (respond sampleContext (jsonRequest .rotationCheck brokenFieldText)).outcome =
        .ok (.answer 422 (.object [("detail", .list [listComplaint])])) ∧
      ∃ u, (respond sampleContext (jsonRequest .renewal brokenFieldText)).outcome =
        .error (.unencodable u) := by
  refine ⟨rfl, ?_, ?_⟩
  · rw [respond_check (route_jsonRequest .rotationCheck brokenFieldText) rfl
      (bodyValue_brokenFieldText .rotationCheck)]
    exact refusal_eq_ok [⟨["body", "certificate_pem"], .notText, .list []⟩] (by decide)
      (by decide)
  · rw [respond_renewal (route_jsonRequest .renewal brokenFieldText) rfl
      (bodyValue_brokenFieldText .renewal)]
    exact exists_refusal_eq_error [⟨["body", "certificate_pem"], .notText, .list []⟩,
      ⟨["body", "service"], .missing, .object brokenFieldFields⟩,
      ⟨["body", "namespace"], .missing, .object brokenFieldFields⟩] (by decide) (by decide)

end Api

end CertRenewal
