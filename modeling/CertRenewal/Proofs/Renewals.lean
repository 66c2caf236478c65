import CertRenewal.Api.Endpoints
import CertRenewal.Proofs.Bodies
import CertRenewal.Proofs.Decisions
import CertRenewal.Proofs.Doubles
import CertRenewal.Proofs.Keys

/-
  What the renewal endpoint answers once its body was accepted. `Tells` spells out how a response
  tells of a decision, and `Ends` lists the four ways a renewal can go, each with what led there.
  Main statement: `renewal_all_or_nothing`, the answer reports the decision with both a key and a
  signing request, or with neither, or it is one of two refusals; and a pair that stays costs
  neither. A body whose pair has no bytes is accepted too, but not answered.
-/

namespace CertRenewal

open Telemetry Lifecycle Rotation

/-! ## What an observer is told -/

/-- Events that tell of keys and of signing requests. -/
def Telemetry.Event.isIssuing : Event → Bool
  | .log (.keyGenerationFailed ..) => true
  | .log (.signingRequestFailed ..) => true
  | .log (.signingRequestBuilt ..) => true
  | .log _ => false
  | .sample (.rotationDecided ..) => false
  | .sample _ => true
  | .spanEnded span => span.operation = .build || span.operation = .issue

namespace Rotation.Policy

theorem isIssuing_of_mem_judge {p : Policy} {pair : Option Pair} {now : Present} {e : Event}
    (h : e ∈ (p.judge pair now).events) : e.isIssuing = false := by
  cases pair with
  | none => cases h
  | some pair =>
    unfold judge at h
    dsimp only at h
    split at h
    · split at h <;> cases h
    · obtain rfl := List.mem_singleton.1 h
      rfl
    · cases h

theorem isIssuing_of_mem_evaluate {p : Policy} {pair : Option Pair} {now : Present} {e : Event}
    (h : e ∈ (p.evaluate pair now).events) : e.isIssuing = false := by
  rcases List.mem_append.1 h with h | h
  · cases judged : (p.judge pair now).outcome with
    | error _ =>
      rw [Traced.bind_of_error _ judged] at h
      exact isIssuing_of_mem_judge h
    | ok d =>
      rw [Traced.bind_of_ok _ judged] at h
      rcases List.mem_append.1 h with h | h
      · exact isIssuing_of_mem_judge h
      · obtain rfl := List.mem_singleton.1 h
        rfl
  · obtain rfl := List.mem_singleton.1 h
    split <;> rfl

end Rotation.Policy

/-- A check tells of no key and of no signing request. -/
theorem Lifecycle.Service.isIssuing_of_mem_check {s : Service} {pair : Option Pair} {now : Present}
    {e : Event} (h : e ∈ (s.check pair now).events) : e.isIssuing = false := by
  unfold check at h
  cases decided : (s.policy.evaluate pair now).outcome with
  | error _ =>
    rw [Traced.bind_of_error _ decided] at h
    exact Policy.isIssuing_of_mem_evaluate h
  | ok d =>
    rw [Traced.bind_of_ok _ decided] at h
    rcases List.mem_append.1 h with h | h
    · exact Policy.isIssuing_of_mem_evaluate h
    · obtain rfl := List.mem_singleton.1 h
      rfl

namespace Api

/-! ## Responses -/

/-- The fields that tell of a decision: whether the certificate is replaced and why, and if it could
be read the text of its end and the seconds that are left until then, as the double nearest to
them. -/
inductive Tells : Decision → List (String × Json) → Prop where
  | notProvisioned : Tells .notProvisioned
      [("rotate", .bool true), ("reason", .text "not_provisioned"), ("not_after", .null),
        ("remaining_seconds", .null)]
  | unreadable : Tells .unreadable
      [("rotate", .bool true), ("reason", .text "unreadable"), ("not_after", .null),
        ("remaining_seconds", .null)]
  | withinReserve {t : CalendarSecond} {left : Span} {x : Double}
      (nearest : x.IsNearest (left.microseconds / 1000000)) : Tells (.withinReserve t left)
      [("rotate", .bool true), ("reason", .text "within_reserve_window"),
        ("not_after", .text t.isoText), ("remaining_seconds", .real x)]
  | valid {t : CalendarSecond} {left : Span} {x : Double}
      (nearest : x.IsNearest (left.microseconds / 1000000)) : Tells (.valid t left)
      [("rotate", .bool false), ("reason", .text "valid"), ("not_after", .text t.isoText),
        ("remaining_seconds", .real x)]

theorem tells (d : Decision) : Tells d (decisionFields d) := by
  cases d with
  | notProvisioned => exact .notProvisioned
  | unreadable => exact .unreadable
  | withinReserve t left => exact .withinReserve (Double.isNearest_ofMillionths left.microseconds)
  | valid t left => exact .valid (Double.isNearest_ofMillionths left.microseconds)

/-- There is one way only to tell of a decision. -/
theorem Tells.unique {d : Decision} {fields other : List (String × Json)} (h : Tells d fields)
    (h' : Tells d other) : fields = other := by
  cases h with
  | notProvisioned =>
    cases h'
    rfl
  | unreadable =>
    cases h'
    rfl
  | withinReserve nearest =>
    cases h' with
    | withinReserve nearest' => rw [nearest.unique nearest']
  | valid nearest =>
    cases h' with
    | valid nearest' => rw [nearest.unique nearest']

/-- The response reports a decision, with a key and a signing request. -/
def Reports (d : Decision) (key request : Json) (x : Response) : Prop :=
  ∃ fields, Tells d fields ∧ x = .answer 200 (.record (fields ++
    [("private_key_pem", key), ("certificate_signing_request", request)]))

/-- The response refuses with a code and a text, and holds nothing else. -/
def Refuses (code text : String) (x : Response) : Prop :=
  ∃ error, x = .answer 500 (.object [("detail", .object
    [("error", .text error), ("code", .text code), ("detail", .text text)])])

section Shapes

variable {d : Decision} {key request otherKey otherRequest : Json} {code text : String}
  {otherCode otherText : String} {x : Response}

theorem Reports.inj (h : Reports d key request x) (other : Reports d otherKey otherRequest x) :
    otherKey = key ∧ otherRequest = request := by
  obtain ⟨fields, told, rfl⟩ := h
  obtain ⟨_, told', same⟩ := other
  obtain rfl := told.unique told'
  simpa [Json.record, eq_comm] using same

theorem Refuses.inj (h : Refuses code text x) (other : Refuses otherCode otherText x) :
    code = otherCode ∧ text = otherText := by
  obtain ⟨error, rfl⟩ := h
  obtain ⟨error, same⟩ := other
  cases same
  exact ⟨rfl, rfl⟩

theorem Reports.not_refuses (h : Reports d key request x) : ¬ Refuses code text x := by
  rintro ⟨error, refused⟩
  obtain ⟨_, -, rfl⟩ := h
  cases refused

end Shapes

/-- No text that the pair of a body needs is broken: with a certificate these are both texts, and
without one there is no pair. -/
def PairBody.HasBytes (b : PairBody) : Prop :=
  ∀ certificate, b.certificate = some certificate →
    certificate.isWhole = true ∧ ∀ key, b.privateKey = some key → key.isWhole = true

theorem PairBody.pair_of_texts (certificate key : String) {given : Option Wide}
    (h : given.getD "" = .text key) :
    pair ⟨some (.text certificate), given⟩ =
      .ok (some ⟨Utf8.ofString certificate, Utf8.ofString key⟩) := by
  unfold pair
  dsimp only
  rw [h, Wide.utf8_text, Wide.utf8_text]
  rfl

theorem PairBody.exists_pair_iff (b : PairBody) : (∃ pair, b.pair = .ok pair) ↔ b.HasBytes := by
  obtain ⟨certificate, key⟩ := b
  unfold HasBytes pair
  dsimp only
  cases certificate with
  | none => exact iff_of_true ⟨none, rfl⟩ nofun
  | some certificate =>
    simp only [Option.some.injEq, forall_eq']
    cases certificate with
    | broken c =>
      obtain ⟨e, failed⟩ := Wide.exists_utf8_broken c
      rw [failed]
      exact iff_of_false nofun fun h => absurd h.1 Bool.false_ne_true
    | text c =>
      cases key with
      | none => exact iff_of_true ⟨_, pair_of_texts c "" rfl⟩ ⟨rfl, nofun⟩
      | some key =>
        cases key with
        | broken k =>
          obtain ⟨e, failed⟩ := Wide.exists_utf8_broken k
          rw [Wide.utf8_text]
          dsimp only [Option.getD_some, bind, Except.bind]
          rw [failed]
          exact iff_of_false nofun fun h => absurd (h.2 _ rfl) Bool.false_ne_true
        | text k =>
          refine iff_of_true ⟨_, pair_of_texts c k rfl⟩ ⟨rfl, fun key same => ?_⟩
          cases same
          rfl

/-- Whether a renewal is to issue a key and a signing request. -/
def RenewalBody.issues (b : RenewalBody) (d : Decision) : Bool := d.rotate || b.force

section Renewal

variable {s : Service} {source : Rsa.KeySource} {clock : Moment} {b : RenewalBody} {d : Decision}

/-- The signing request that a renewal builds with a key. -/
def built (s : Service) (b : RenewalBody) (key : Option Rsa.PrivateKey) :
    Except BuildFailure SigningRequest :=
  (s.builder.build key b.identity (b.useFullName.getD s.useFullName)).outcome

/-- The ways a renewal ends once there is a decision. -/
inductive Ends (s : Service) (source : Rsa.KeySource) (b : RenewalBody) (d : Decision) :
    Response → Prop where
  | kept {x : Response} (stay : b.issues d = false) (h : Reports d .null .null x) :
      Ends s source b d x
  | issued {x : Response} {key : Option Rsa.PrivateKey} {request : SigningRequest}
      (go : b.issues d = true) (drawn : source.draw s.keySize = .ok key)
      (done : built s b key = .ok request)
      (h : Reports d (textOf (keyText key)) request.manifest x) : Ends s source b d x
  | keyFailed {x : Response} {f : Rsa.GenerationFailure} (go : b.issues d = true)
      (drawn : source.draw s.keySize = .error f)
      (h : Refuses "KEY_GENERATION_FAILED" f.message x) : Ends s source b d x
  | requestFailed {x : Response} {key : Option Rsa.PrivateKey} {f : BuildFailure}
      (go : b.issues d = true) (drawn : source.draw s.keySize = .ok key)
      (failed : built s b key = .error f) (h : Refuses "CSR_BUILD_FAILED" f.message x) :
      Ends s source b d x

/-- Where the pair has bytes, a renewal is that of the service, as a span. -/
theorem renewalSpan_of_pair {pair : Option Pair} (paired : b.pair.pair = .ok pair) :
    renewalSpan s source clock b =
      Traced.inSpan .renewal
        [("service", .text b.service.text), ("namespace", .text b.namespaceName.text)]
        (fun o => [("rotate", .flag o.decision.rotate), ("issued", .flag o.issued)])
        ((s.renew source b.identity pair (.clock clock) b.force b.useFullName).mapError
          RenewalError.service) := by
  unfold renewalSpan
  rw [paired]
  rfl

theorem outcome_renewal {pair : Option Pair} (paired : b.pair.pair = .ok pair) :
    (renewal s source clock b).outcome =
      match (s.renew source b.identity pair (.clock clock) b.force b.useFullName).outcome with
      | .ok o => .ok (.answer 200 (.record (outcomeFields o)))
      | .error (.issue e) => .ok (failureResponse e)
      | .error (.evaluation e) => .error (.evaluation e) := by
  unfold renewal
  dsimp only
  rw [renewalSpan_of_pair paired, Traced.outcome_inSpan, Traced.outcome_mapError]
  cases (s.renew source b.identity pair (.clock clock) b.force b.useFullName).outcome with
  | ok o => rfl
  | error e => cases e <;> rfl

/-- A renewal with a decision ends in one of these ways, and with a response. -/
theorem exists_ends {pair : Option Pair} (paired : b.pair.pair = .ok pair)
    (decided : (s.policy.evaluate pair (.clock clock)).outcome = .ok d) :
    ∃ x, (renewal s source clock b).outcome = .ok x ∧ Ends s source b d x := by
  have renewed : (s.renew source b.identity pair (.clock clock) b.force
      b.useFullName).outcome = _ := Service.outcome_renew_of_ok decided
  rw [outcome_renewal paired]
  cases go : b.issues d with
  | false =>
    rw [if_neg (by rw [← RenewalBody.issues, go]; decide)] at renewed
    rw [renewed]
    exact ⟨_, rfl, .kept go ⟨_, tells d, rfl⟩⟩
  | true =>
    rw [if_pos (by rw [← RenewalBody.issues, go])] at renewed
    cases drawn : source.draw s.keySize with
    | error f =>
      rw [Service.outcome_issue_of_key_error s source b.identity b.useFullName drawn] at renewed
      rw [renewed]
      exact ⟨_, rfl, .keyFailed go drawn ⟨_, rfl⟩⟩
    | ok key =>
      cases done : built s b key with
      | error f =>
        rw [Service.outcome_issue_of_request_error s source b.useFullName drawn done] at renewed
        rw [renewed]
        exact ⟨_, rfl, .requestFailed go drawn done ⟨_, rfl⟩⟩
      | ok request =>
        rw [Service.outcome_issue_of_ok s source b.useFullName drawn done] at renewed
        rw [renewed]
        exact ⟨_, rfl, .issued go drawn done ⟨_, tells d, rfl⟩⟩

/-- What a refusal with the code of keys comes from. -/
theorem refuses_key_iff {x : Response} (h : Ends s source b d x) (text : String) :
    Refuses "KEY_GENERATION_FAILED" text x ↔
      b.issues d = true ∧ ∃ f, source.draw s.keySize = .error f ∧ f.message = text := by
  constructor
  · intro refused
    cases h with
    | kept _ h => exact absurd refused h.not_refuses
    | issued _ _ _ h => exact absurd refused h.not_refuses
    | keyFailed go drawn h => exact ⟨go, _, drawn, (h.inj refused).2⟩
    | requestFailed _ _ _ h => exact absurd (h.inj refused).1 (by decide)
  · rintro ⟨go, f, failed, rfl⟩
    cases h with
    | kept stay => exact absurd (stay.symm.trans go) (by decide)
    | issued _ drawn => cases drawn.symm.trans failed
    | keyFailed _ drawn h =>
      cases drawn.symm.trans failed
      exact h
    | requestFailed _ drawn => cases drawn.symm.trans failed

/-- What a refusal with the code of signing requests comes from. -/
theorem refuses_request_iff {x : Response} (h : Ends s source b d x) (text : String) :
    Refuses "CSR_BUILD_FAILED" text x ↔
      b.issues d = true ∧ ∃ key f, source.draw s.keySize = .ok key ∧ built s b key = .error f ∧
        f.message = text := by
  constructor
  · intro refused
    cases h with
    | kept _ h => exact absurd refused h.not_refuses
    | issued _ _ _ h => exact absurd refused h.not_refuses
    | keyFailed _ _ h => exact absurd (h.inj refused).1 (by decide)
    | requestFailed go drawn failed h => exact ⟨go, _, _, drawn, failed, (h.inj refused).2⟩
  · rintro ⟨go, key, f, given, failed, rfl⟩
    cases h with
    | kept stay => exact absurd (stay.symm.trans go) (by decide)
    | issued _ drawn done =>
      cases drawn.symm.trans given
      cases done.symm.trans failed
    | keyFailed _ drawn => cases drawn.symm.trans given
    | requestFailed _ drawn unbuilt h =>
      cases drawn.symm.trans given
      cases unbuilt.symm.trans failed
      exact h

/-- A request is built only with a key. -/
theorem exists_key_of_built {key : Option Rsa.PrivateKey} {r : SigningRequest}
    (h : built s b key = .ok r) : ∃ k, key = some k := by
  obtain ⟨_, certified, -⟩ := Builder.outcome_build_eq_ok h
  obtain ⟨-, -, k, same, -⟩ := Builder.certify_eq_ok certified
  exact ⟨k, same⟩

/-- In a response the PEM text of a key stands as it is. -/
theorem exists_textOf_pem (k : Rsa.PrivateKey) :
    ∃ t, textOf k.pem = .text t ∧ Utf8.ofString t = k.pem := by
  obtain ⟨chars, written⟩ : ∃ chars, k.pem = Utf8.encode chars := ⟨_, rfl⟩
  refine ⟨String.ofList chars, ?_, ?_⟩
  · rw [textOf, written, Utf8.toString?, Utf8.decode?_encode]
    rfl
  · rw [Utf8.ofString, String.toList_ofList, written]

/-- What stands beside a decision. -/
theorem reports_cases {x : Response} (h : Ends s source b d x) {key request : Json}
    (reported : Reports d key request x) :
    (b.issues d = false ∧ key = .null ∧ request = .null) ∨
      (b.issues d = true ∧ key ≠ .null ∧ request ≠ .null ∧
        ∃ k m t, source.draw s.keySize = .ok (some k) ∧ built s b (some k) = .ok m ∧
          key = .text t ∧ Utf8.ofString t = k.pem ∧ request = m.manifest) := by
  cases h with
  | kept stay h =>
    obtain ⟨rfl, rfl⟩ := h.inj reported
    exact .inl ⟨stay, rfl, rfl⟩
  | issued go drawn done h =>
    obtain ⟨rfl, rfl⟩ := h.inj reported
    obtain ⟨k, rfl⟩ := exists_key_of_built done
    obtain ⟨t, text, bytes⟩ := exists_textOf_pem k
    refine .inr ⟨go, ?_, ?_, k, _, t, drawn, done, text, bytes, rfl⟩
    · show textOf k.pem ≠ .null
      rw [text]
      exact nofun
    · exact nofun
  | keyFailed _ _ h => exact absurd h reported.not_refuses
  | requestFailed _ _ _ h => exact absurd h reported.not_refuses

/-- A renewal that issues nothing is that of a check, as a span. -/
theorem renewalSpan_of_kept (source : Rsa.KeySource) {pair : Option Pair}
    (paired : b.pair.pair = .ok pair)
    (decided : (s.policy.evaluate pair (.clock clock)).outcome = .ok d)
    (stay : b.issues d = false) :
    (renewalSpan s source clock b).events =
        (s.check pair (.clock clock)).events ++
          [.spanEnded ⟨.renewal, [("service", .text b.service.text),
            ("namespace", .text b.namespaceName.text), ("rotate", .flag d.rotate),
            ("issued", .flag false)], false⟩] ∧
      (renewalSpan s source clock b).outcome = .ok ⟨d, none⟩ := by
  rw [renewalSpan_of_pair paired,
    Service.renew_of_kept source b.identity b.useFullName decided stay]
  exact ⟨rfl, rfl⟩

/-- A renewal that issues nothing does not depend on where keys come from, nor on how requests
are built. -/
theorem renewal_congr_of_kept {pair : Option Pair} (paired : b.pair.pair = .ok pair)
    (decided : (s.policy.evaluate pair (.clock clock)).outcome = .ok d)
    (stay : b.issues d = false) (other : Service) (same : other.policy = s.policy)
    (otherSource : Rsa.KeySource) :
    renewal other otherSource clock b = renewal s source clock b := by
  have checks : ∀ pair now, other.check pair now = s.check pair now := by
    intro pair now
    unfold Service.check
    rw [same]
  have decided' : (other.policy.evaluate pair (.clock clock)).outcome = .ok d := by
    rw [same, decided]
  obtain ⟨told, reached⟩ := renewalSpan_of_kept source paired decided stay
  obtain ⟨told', reached'⟩ := renewalSpan_of_kept otherSource paired decided' stay
  unfold renewal
  dsimp only
  rw [told, reached, told', reached', checks]

/-- A renewal that issues nothing tells of no key and of no signing request. -/
theorem isIssuing_of_mem_renewal {pair : Option Pair} (paired : b.pair.pair = .ok pair)
    (decided : (s.policy.evaluate pair (.clock clock)).outcome = .ok d)
    (stay : b.issues d = false) {e : Event} (h : e ∈ (renewal s source clock b).events) :
    e.isIssuing = false := by
  have told := (renewalSpan_of_kept source paired decided stay).1
  change e ∈ (renewalSpan s source clock b).events at h
  rw [told] at h
  rcases List.mem_append.1 h with h | h
  · exact Service.isIssuing_of_mem_check h
  · obtain rfl := List.mem_singleton.1 h
    rfl

/-- Where the pair has no bytes nothing comes of a renewal but the end of its span. -/
theorem renewal_of_unencodable {e : Unencodable} (unpaired : b.pair.pair = .error e) :
    renewal s source clock b =
      ⟨[.spanEnded ⟨.renewal, [("service", .text b.service.text),
        ("namespace", .text b.namespaceName.text)], true⟩], .error (.unencodable e)⟩ := by
  unfold renewal renewalSpan
  rw [unpaired]
  rfl

end Renewal

/-! ## The endpoint -/

theorem respond_of_good {c : Context} {r : Request} {s : Service} {v : Option Json}
    {b : RenewalBody} (routed : route r = .endpoint .renewal) (installed : c.service = some s)
    (read : bodyValue r = .ok v) (accepted : checkBody renewalFields v = .good b) :
    respond c r = renewal s c.source c.clock b := by
  unfold respond serve ask onChecked
  rw [routed]
  dsimp only
  rw [read]
  dsimp only
  rw [installed]
  dsimp only
  rw [accepted]

/-- The names of an accepted body, of at most 63 characters before they are trimmed, make an
identity afterwards. A renewal with such a body has a pair exactly if no text that the pair needs is
broken; if one is, the renewal leaves the endpoint as an error, and neither keys nor requests have
been asked for. With a pair on which the policy decides, the renewal is answered. The answer is one
of three, and no two of them at once. It reports the decision, and beside it a key and the signing
request that was built with it if the decision or the body asks for them, else null for both; or it
refuses, for want of a key exactly if the source fails, or for want of a request exactly if the
source gives a key and nothing can be built with it. A refusal holds the text of the failure and
nothing else. When nothing is asked for, an observer is told of no key and of no request, and the
answer is the same whatever keys and requests could be had. -/
theorem renewal_all_or_nothing {c : Context} {r : Request} {s : Service} {v : Option Json}
    {b : RenewalBody} (routed : route r = .endpoint .renewal)
    (installed : c.service = some s) (read : bodyValue r = .ok v)
    (accepted : checkBody renewalFields v = .good b) :
    (∃ body service namespaceName, v = some body ∧
        body.field? "service" = some (.text service) ∧ service.length ≤ maxNameLength ∧
        body.field? "namespace" = some (.text namespaceName) ∧
        namespaceName.length ≤ maxNameLength ∧
        Identity.make (Text.trim service) (Text.trim namespaceName) b.apiServerHost =
          .ok b.identity) ∧
      ((∃ pair, b.pair.pair = .ok pair) ↔ b.pair.HasBytes) ∧
      (∀ e, b.pair.pair = .error e → (respond c r).outcome = .error (.unencodable e) ∧
        (∀ e ∈ (respond c r).events, e.isIssuing = false) ∧
        ∀ (source : Rsa.KeySource) (other : Service),
          respond { c with source, service := some other } r = respond c r) ∧
      ∀ pair d, b.pair.pair = .ok pair →
        (s.policy.evaluate pair (.clock c.clock)).outcome = .ok d →
        ∃ x, (respond c r).outcome = .ok x ∧
          ((∃ key request, Reports d key request x) ∨
            (∃ text, Refuses "KEY_GENERATION_FAILED" text x) ∨
            ∃ text, Refuses "CSR_BUILD_FAILED" text x) ∧
          (∀ key request code text, Reports d key request x → ¬ Refuses code text x) ∧
          (∀ text other, Refuses "KEY_GENERATION_FAILED" text x →
            ¬ Refuses "CSR_BUILD_FAILED" other x) ∧
          (∀ key request, Reports d key request x →
            (b.issues d = false ∧ key = .null ∧ request = .null) ∨
            (b.issues d = true ∧ key ≠ .null ∧ request ≠ .null ∧
              ∃ k m t, c.source.draw s.keySize = .ok (some k) ∧ built s b (some k) = .ok m ∧
                key = .text t ∧ Utf8.ofString t = k.pem ∧ request = m.manifest)) ∧
          (∀ text, Refuses "KEY_GENERATION_FAILED" text x ↔
            b.issues d = true ∧ ∃ f, c.source.draw s.keySize = .error f ∧ f.message = text) ∧
          (∀ text, Refuses "CSR_BUILD_FAILED" text x ↔
            b.issues d = true ∧ ∃ key f, c.source.draw s.keySize = .ok key ∧
              built s b key = .error f ∧ f.message = text) ∧
          (b.issues d = false →
            (∀ e ∈ (respond c r).events, e.isIssuing = false) ∧
            ∀ (source : Rsa.KeySource) (other : Service), other.policy = s.policy →
              respond { c with source, service := some other } r = respond c r) := by
  have answer := respond_of_good routed installed read accepted
  have changed : ∀ (source : Rsa.KeySource) (other : Service),
      respond { c with source, service := some other } r = renewal other source c.clock b :=
    fun source other => respond_of_good routed rfl read accepted
  refine ⟨exists_identity_of_good accepted, b.pair.exists_pair_iff, ?_, ?_⟩
  · intro e unpaired
    have ended : ∀ (source : Rsa.KeySource) (s : Service), renewal s source c.clock b = _ :=
      fun source s => renewal_of_unencodable unpaired
    rw [answer, ended]
    refine ⟨rfl, ?_, fun source other => ?_⟩
    · intro e he
      obtain rfl := List.mem_singleton.1 he
      rfl
    · rw [changed, ended]
  · intro pair d paired decided
    obtain ⟨x, answered, ending⟩ :
        ∃ x, (renewal s c.source c.clock b).outcome = .ok x ∧ Ends s c.source b d x :=
      exists_ends paired decided
    refine ⟨x, ?_, ?_, fun _ _ _ _ h => h.not_refuses, ?_, fun _ _ => reports_cases ending,
      refuses_key_iff ending, refuses_request_iff ending, fun stay => ⟨?_, ?_⟩⟩
    · rw [answer, answered]
    · cases ending with
      | kept _ h => exact .inl ⟨_, _, h⟩
      | issued _ _ _ h => exact .inl ⟨_, _, h⟩
      | keyFailed _ _ h => exact .inr (.inl ⟨_, h⟩)
      | requestFailed _ _ _ h => exact .inr (.inr ⟨_, h⟩)
    · intro text other noKey noRequest
      exact absurd (noKey.inj noRequest).1 (by decide)
    · intro e he
      rw [answer] at he
      exact isIssuing_of_mem_renewal paired decided stay he
    · intro source other same
      rw [answer, changed]
      exact renewal_congr_of_kept paired decided stay other same source

/-! ## Samples -/

/-- A request with a text as JSON for its body. -/
def jsonRequest (e : Endpoint) (text : String) : Request :=
  ⟨e.method, e.path, some "application/json", Utf8.ofString text⟩

theorem route_jsonRequest (e : Endpoint) (text : String) :
    route (jsonRequest e text) = .endpoint e := by
  have found : Endpoint.at? e.path = some e := by cases e <;> decide
  unfold route jsonRequest
  dsimp only
  rw [found]
  exact if_pos rfl

/-- A body of ASCII is read as what its characters say. -/
theorem bodyValue_jsonRequest {text : String} {v : Json} (nonempty : Utf8.ofString text ≠ [])
    (ascii : text.toList.all (fun c => 0 < c.toNat ∧ c.toNat < 128) = true)
    (parsed : Json.parse (Point.ofChars text.toList) = .ok v) (e : Endpoint) :
    bodyValue (jsonRequest e text) = .ok (some v) := by
  have range : ∀ c ∈ text.toList, 0 < c.toNat ∧ c.toNat < 128 := fun c hc =>
    of_decide_eq_true (List.all_eq_true.1 ascii c hc)
  have json : isJsonType (some "application/json") = true := by decide +kernel
  unfold bodyValue jsonRequest
  dsimp only
  rw [if_neg nonempty, if_pos json, Utf8.ofString, Json.ofBytes_encode range, parsed]
  rfl

/-- The standard service installed, with a key of two Mersenne primes to give, a tenth of a second
into the year 2026. -/
def sampleContext : Context :=
  ⟨.standard, some .standard, .ready (some .sample), ⟨⟨2026, 1, 1, 0, 0, 0⟩, 100000, some ⟨0⟩⟩⟩

/-- A certificate with nothing in it that may be missing. It ends with the first day of 2026. -/
def bareCertificate : Certificate where
  body :=
    { version := 0
      serial := 0
      algorithm := ⟨.ofArcs [1, 2, 3], none⟩
      issuer := []
      validity := ⟨⟨.short, ⟨2024, 1, 1, 0, 0, 0⟩⟩, ⟨.short, ⟨2026, 1, 2, 0, 0, 0⟩⟩⟩
      subject := []
      publicKey := ⟨⟨.ofArcs [1, 2, 3], none⟩, .ofBytes []⟩
      issuerId := none
      subjectId := none
      extensions := none }
  algorithm := ⟨.ofArcs [1, 2, 3], none⟩
  signature := .ofBytes []

/-- Its text. -/
def barePem : String :=
  "-----BEGIN CERTIFICATE-----\n" ++
    "MEMwOAIBADAEBgIqAzAAMB4XDTI0MDEwMTAwMDAwMFoXDTI2MDEwMjAwMDAwMFow\n" ++
    "ADAJMAQGAioDAwEAMAQGAioDAwEA\n-----END CERTIFICATE-----\n"

/-- The pair with this certificate and no key. -/
def barePair : Pair := ⟨Utf8.ofString barePem, Utf8.ofString ""⟩

theorem expiration_barePair :
    Certificate.expiration barePair.certificate = .ok ⟨2026, 1, 2, 0, 0, 0⟩ := by
  have written : barePair.certificate =
      Pem.write (Certificate.block bareCertificate.encode) := by decide +kernel
  have held : Certificate.Holds barePair.certificate bareCertificate := by
    rw [written, Certificate.holds_write_iff]
    decide +kernel
  rw [Certificate.expiration_of_holds held]
  decide

/-- A body with a blank before a name, and with this certificate. -/
def sampleText : String :=
  "\x7b\"service\": \" w\", \"namespace\": \"d\", \"certificate_pem\": \"" ++
    "-----BEGIN CERTIFICATE-----\\n" ++
    "MEMwOAIBADAEBgIqAzAAMB4XDTI0MDEwMTAwMDAwMFoXDTI2MDEwMjAwMDAwMFow\\n" ++
    "ADAJMAQGAioDAwEAMAQGAioDAwEA\\n-----END CERTIFICATE-----\\n\"\x7d"

/-- What the body says. -/
def sampleFields : List (Wide × Json) :=
  [("service", .text " w"), ("namespace", .text "d"), ("certificate_pem", .text barePem)]

/-- What the body is taken for. -/
def sampleRenewal : RenewalBody :=
  ⟨⟨some barePem, none⟩, ⟨"w", by decide⟩, ⟨"d", by decide⟩, "", none, false⟩

set_option maxRecDepth 20000 in
theorem parse_sampleText :
    Json.parse (Point.ofChars sampleText.toList) = .ok (.object sampleFields) := by cbv

theorem bodyValue_sampleText (e : Endpoint) :
    bodyValue (jsonRequest e sampleText) = .ok (some (.object sampleFields)) :=
  bodyValue_jsonRequest (by decide +kernel) (by decide +kernel) parse_sampleText e

theorem outcome_evaluate_barePair :
    (Service.standard.policy.evaluate (some barePair) (.clock sampleContext.clock)).outcome =
      .ok (.withinReserve ⟨2026, 1, 2, 0, 0, 0⟩ ⟨86399900000⟩) :=
  (Policy.outcome_evaluate_dated expiration_barePair rfl).trans (by decide)

theorem pair_sampleRenewal : sampleRenewal.pair.pair = .ok (some barePair) :=
  PairBody.pair_of_texts barePem "" rfl

theorem exists_built_sample :
    ∃ m, built Service.standard sampleRenewal (some .sample) = .ok m := by
  have done : ((Builder.certify (some .sample) sampleRenewal.identity false).toOption.any
      fun _ => true) = true := by decide +kernel
  obtain ⟨c, certified, -⟩ := Except.exists_of_any done
  exact ⟨_, Builder.outcome_build_of_ok certified⟩

/-- The standard service answers the request: less than the reserve is left of the certificate, so
that there is a new key, and the seconds that are left have no exact form. -/
theorem renewal_all_or_nothing_sample :
    ∃ t m, (respond sampleContext (jsonRequest .renewal sampleText)).outcome =
        .ok (.answer 200 (.record [("rotate", .bool true),
          ("reason", .text "within_reserve_window"), ("not_after", .text "2026-01-02T00:00:00+00:00"),
          ("remaining_seconds", .real (.finite false 5937355918042726 (-36))),
          ("private_key_pem", .text t), ("certificate_signing_request", m)])) ∧
      m ≠ .null ∧ Utf8.ofString t = Rsa.PrivateKey.sample.pem := by
  obtain ⟨-, -, -, answers⟩ :=
    renewal_all_or_nothing (c := sampleContext) (b := sampleRenewal)
      (route_jsonRequest .renewal sampleText) rfl (bodyValue_sampleText .renewal) rfl
  obtain ⟨x, answered, one, -, -, reported, noKey, noRequest, -⟩ :=
    answers _ _ pair_sampleRenewal outcome_evaluate_barePair
  obtain ⟨m, done⟩ := exists_built_sample
  rcases one with ⟨key, request, told⟩ | ⟨text, refused⟩ | ⟨text, refused⟩
  · rcases reported key request told with ⟨stay, -, -⟩ | ⟨-, -, some_request, k, m, t, drawn, -,
      rfl, bytes, -⟩
    · cases stay
    · have given : sampleContext.source.draw Service.standard.keySize = .ok (some .sample) := rfl
      have same : Rsa.PrivateKey.sample = k :=
        Option.some.inj (Except.ok.inj (given.symm.trans drawn))
      obtain ⟨fields, told, rfl⟩ := told
      cases told with
      | withinReserve nearest =>
        obtain rfl := nearest.unique (Double.isNearest_ofMillionths 86399900000)
        exact ⟨t, request, answered, some_request, same ▸ bytes⟩
  · obtain ⟨-, f, failed, -⟩ := (noKey text).1 refused
    cases failed
  · obtain ⟨-, k, f, drawn, failed, -⟩ := (noRequest text).1 refused
    cases drawn
    cases done.symm.trans failed

/-- A body in which the private key is half of a surrogate pair, beside a certificate that is
unreadable. -/
def brokenKeyText : String :=
  "\x7b\"service\": \"a\", \"namespace\": \"b\", \"certificate_pem\": \"\", " ++
    "\"private_key_pem\": \"\\ud800\"\x7d"

/-- The half that is the private key. -/
def brokenKey : Broken := ⟨[.half ⟨0xD800, by decide, by decide⟩], rfl⟩

/-- What the body says. -/
def brokenKeyFields : List (Wide × Json) :=
  [("service", .text "a"), ("namespace", .text "b"), ("certificate_pem", .text ""),
    ("private_key_pem", .broken brokenKey)]

/-- What the body is taken for. -/
def brokenKeyRenewal : RenewalBody :=
  ⟨⟨some "", some (.broken brokenKey)⟩, ⟨"a", by decide⟩, ⟨"b", by decide⟩, "", none, false⟩

set_option maxRecDepth 20000 in
theorem parse_brokenKeyText :
    Json.parse (Point.ofChars brokenKeyText.toList) = .ok (.object brokenKeyFields) := by cbv

/-- The body is accepted, and whatever its private key, there is a decision on its certificate; but
the renewal is not answered. -/
theorem not_all_or_nothing_brokenKey :
    bodyValue (jsonRequest .renewal brokenKeyText) = .ok (some (.object brokenKeyFields)) ∧
      checkBody renewalFields (some (.object brokenKeyFields)) = .good brokenKeyRenewal ∧
      (∀ key, (Service.standard.policy.evaluate (some ⟨Utf8.ofString "", key⟩)
        (.clock sampleContext.clock)).outcome = .ok .unreadable) ∧
      ∃ e, (respond sampleContext (jsonRequest .renewal brokenKeyText)).outcome =
          .error (.unencodable e) ∧
        e.message =
          "'utf-8' codec can't encode character '\\ud800' in position 0: surrogates not allowed" := by
  have read : bodyValue (jsonRequest .renewal brokenKeyText) =
      .ok (some (.object brokenKeyFields)) :=
    bodyValue_jsonRequest (by decide +kernel) (by decide +kernel) parse_brokenKeyText .renewal
  refine ⟨read, rfl, fun key => Policy.outcome_evaluate_unreadable rfl, ?_⟩
  rw [respond_of_good (b := brokenKeyRenewal) (route_jsonRequest .renewal brokenKeyText) rfl read
      rfl,
    renewal_of_unencodable (e := ⟨⟨0xD800, by decide, by decide⟩, 0, 1⟩) rfl]
  exact ⟨_, rfl, by decide +kernel⟩

end Api

end CertRenewal
