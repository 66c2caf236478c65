import CertRenewal.Lifecycle.Service

/-
  What the operations come to, events apart. Each operation of the library tells an observer what
  it does; this file says of each one only how it ends, as an equation where it is simple and as
  an inversion where it can fail in several ways. Later files use these statements and do not
  open the operations again.
-/

namespace CertRenewal

open Telemetry Rotation

/-! ## Observed computations -/

namespace Telemetry.Traced

variable {ε δ α β : Type}

theorem outcome_bind (x : Traced ε α) (f : α → Traced ε β) :
    (x >>= f).outcome = x.outcome.bind fun a => (f a).outcome := by
  cases h : x.outcome with
  | ok a => rw [bind_of_ok f h]; rfl
  | error e => rw [bind_of_error f h]; rfl

theorem outcome_onError (x : Traced ε α) (events : ε → List Event) :
    (x.onError events).outcome = x.outcome := by
  unfold onError
  split <;> rfl

theorem outcome_mapError (f : ε → δ) (x : Traced ε α) :
    (x.mapError f).outcome = x.outcome.mapError f := rfl

end Telemetry.Traced

/-- A computed result that passes a test is there. -/
theorem Except.exists_of_any {ε α : Type} {x : Except ε α} {p : α → Bool}
    (h : x.toOption.any p = true) : ∃ a, x = .ok a ∧ p a = true := by
  cases x with
  | ok a => exact ⟨a, rfl, h⟩
  | error e => cases h

/-! ## Decisions -/

namespace Rotation.Policy

theorem make_eq_ok {window : Span} {p : Policy} (h : make window = .ok p) : p.window = window := by
  unfold make at h
  split at h
  · cases h; rfl
  · cases h

theorem outcome_evaluate (p : Policy) (pair : Option Pair) (now : Present) :
    (p.evaluate pair now).outcome = (p.judge pair now).outcome := by
  unfold evaluate
  rw [Traced.outcome_inSpan, Traced.outcome_bind]
  cases (p.judge pair now).outcome <;> rfl

theorem outcome_evaluate_none (p : Policy) (now : Present) :
    (p.evaluate none now).outcome = .ok .notProvisioned := by
  rw [outcome_evaluate]
  rfl

variable {p : Policy} {pair : Pair} {now : Present}

theorem outcome_evaluate_unreadable {reason : Certificate.ReadError}
    (h : Certificate.expiration pair.certificate = .error (.unreadable reason)) :
    (p.evaluate (some pair) now).outcome = .ok .unreadable := by
  rw [outcome_evaluate]
  simp only [judge, h]
  rfl

theorem outcome_evaluate_anomalous {anomaly : Certificate.Anomaly}
    (h : Certificate.expiration pair.certificate = .error (.anomalous anomaly)) :
    (p.evaluate (some pair) now).outcome = .error (.certificate anomaly) := by
  rw [outcome_evaluate]
  simp only [judge, h]
  rfl

theorem outcome_evaluate_dated {t : CalendarSecond} {n : Instant}
    (h : Certificate.expiration pair.certificate = .ok t) (hn : now.instant? = some n) :
    (p.evaluate (some pair) now).outcome = .ok (p.compare t n) := by
  rw [outcome_evaluate]
  simp only [judge, h, hn]
  rfl

end Rotation.Policy

/-! ## Requests -/

namespace Builder

section Complete

variable (b : Builder) (i : Identity) (fullName : Bool) (c : Pkcs10.Request)

@[simp] theorem complete_pem : (b.complete i fullName c).pem = c.pem := rfl

@[simp] theorem complete_commonName :
    (b.complete i fullName c).commonName = i.commonName fullName := rfl

@[simp] theorem complete_dnsNames : (b.complete i fullName c).dnsNames = i.dnsNames := rfl

@[simp] theorem complete_addresses : (b.complete i fullName c).addresses = i.addresses := rfl

end Complete

theorem outcome_build_eq_ok {b : Builder} {key : Option Rsa.PrivateKey} {i : Identity}
    {fullName : Bool} {r : SigningRequest} (h : (b.build key i fullName).outcome = .ok r) :
    ∃ c, certify key i fullName = .ok c ∧ r = b.complete i fullName c := by
  unfold build at h
  rw [Traced.outcome_inSpan, Traced.outcome_bind] at h
  cases hc : certify key i fullName with
  | ok c =>
    rw [hc] at h
    exact ⟨c, rfl, (Except.ok.inj h).symm⟩
  | error f =>
    rw [hc] at h
    cases h

theorem outcome_build_of_ok {b : Builder} {key : Option Rsa.PrivateKey} {i : Identity}
    {fullName : Bool} {c : Pkcs10.Request} (h : certify key i fullName = .ok c) :
    (b.build key i fullName).outcome = .ok (b.complete i fullName c) := by
  unfold build
  rw [Traced.outcome_inSpan, Traced.outcome_bind, h]
  rfl

/-- A request is certified only when its names are ASCII, its common name fits and the key can
sign. -/
theorem certify_eq_ok {key : Option Rsa.PrivateKey} {i : Identity} {fullName : Bool}
    {c : Pkcs10.Request} (h : certify key i fullName = .ok c) :
    i.dnsNames.all Pkcs10.AltName.isAscii = true ∧
      (Utf8.ofString (i.commonName fullName)).length ≤ maxCommonName ∧
      ∃ k, key = some k ∧
        Pkcs10.Info.sign? ⟨i.commonName fullName, k.publicKey, altNames i⟩ k = some c := by
  unfold certify at h
  dsimp only at h
  split at h
  · cases h
  · rename_i ascii
    split at h
    · cases h
    · rename_i length
      cases key with
      | none => cases h
      | some k =>
        dsimp only at h
        split at h
        · cases h
        · rename_i r hr
          cases h
          exact ⟨by simpa using ascii, by omega, k, rfl, hr⟩

end Builder

/-! ## Bundles and renewals -/

namespace Lifecycle

theorem outcome_generate (source : Rsa.KeySource) (bits : Int) :
    (generate source bits).outcome = source.draw bits := by
  unfold generate
  rw [Traced.outcome_bind]
  show (source.draw bits).bind _ = _
  cases source.draw bits <;> rfl

namespace Service

variable {s : Service} {source : Rsa.KeySource} {i : Identity} {pair : Option Pair}
  {now : Present} {force : Bool} {fullName : Option Bool}

theorem outcome_check (s : Service) (pair : Option Pair) (now : Present) :
    (s.check pair now).outcome = (s.policy.evaluate pair now).outcome := by
  unfold check
  rw [Traced.outcome_bind]
  cases (s.policy.evaluate pair now).outcome <;> rfl

/-- A bundle is a key from the source and a request that is built with it. -/
theorem outcome_issue (s : Service) (source : Rsa.KeySource) (i : Identity)
    (fullName : Option Bool) :
    (s.issue source i fullName).outcome =
      ((source.draw s.keySize).mapError IssueError.key).bind fun key =>
        ((s.builder.build key i (fullName.getD s.useFullName)).outcome.mapError
          IssueError.request).map fun r => ⟨keyText key, r⟩ := by
  unfold issue
  rw [Traced.outcome_inSpan, Traced.outcome_bind, Traced.outcome_mapError, Traced.outcome_onError,
    outcome_generate]
  cases source.draw s.keySize with
  | error f => rfl
  | ok key =>
    dsimp only [Except.mapError, Except.bind]
    rw [Traced.outcome_bind, Traced.outcome_mapError, Traced.outcome_onError]
    cases (s.builder.build key i (fullName.getD s.useFullName)).outcome <;> rfl

/-- A bundle holds the key that the source gave and the request that was built with it. -/
theorem outcome_issue_eq_ok {b : Bundle} (h : (s.issue source i fullName).outcome = .ok b) :
    ∃ key r, source.draw s.keySize = .ok key ∧
      (s.builder.build key i (fullName.getD s.useFullName)).outcome = .ok r ∧
      b = ⟨keyText key, r⟩ := by
  rw [outcome_issue] at h
  cases hd : source.draw s.keySize with
  | error f =>
    rw [hd] at h
    cases h
  | ok key =>
    rw [hd] at h
    cases hb : (s.builder.build key i (fullName.getD s.useFullName)).outcome with
    | error f =>
      dsimp only [Except.mapError, Except.bind] at h
      rw [hb] at h
      cases h
    | ok r =>
      dsimp only [Except.mapError, Except.bind] at h
      rw [hb] at h
      exact ⟨key, r, rfl, hb, (Except.ok.inj h).symm⟩

theorem outcome_issue_of_ok (s : Service) (source : Rsa.KeySource) (fullName : Option Bool)
    {key : Option Rsa.PrivateKey} {r : SigningRequest} (drawn : source.draw s.keySize = .ok key)
    (built : (s.builder.build key i (fullName.getD s.useFullName)).outcome = .ok r) :
    (s.issue source i fullName).outcome = .ok ⟨keyText key, r⟩ := by
  rw [outcome_issue, drawn]
  dsimp only [Except.mapError, Except.bind]
  rw [built]
  rfl

theorem outcome_issue_of_key_error (s : Service) (source : Rsa.KeySource) (i : Identity)
    (fullName : Option Bool) {f : Rsa.GenerationFailure}
    (drawn : source.draw s.keySize = .error f) :
    (s.issue source i fullName).outcome = .error (.key f) := by
  rw [outcome_issue, drawn]
  rfl

theorem outcome_issue_of_request_error (s : Service) (source : Rsa.KeySource)
    (fullName : Option Bool) {key : Option Rsa.PrivateKey} {f : BuildFailure}
    (drawn : source.draw s.keySize = .ok key)
    (built : (s.builder.build key i (fullName.getD s.useFullName)).outcome = .error f) :
    (s.issue source i fullName).outcome = .error (.request f) := by
  rw [outcome_issue, drawn]
  dsimp only [Except.mapError, Except.bind]
  rw [built]
  rfl

/-- Without a decision there is no renewal. -/
theorem outcome_renew_of_error {e : EvaluationError}
    (h : (s.policy.evaluate pair now).outcome = .error e) :
    (s.renew source i pair now force fullName).outcome = .error (.evaluation e) := by
  unfold renew
  rw [Traced.outcome_bind, Traced.outcome_mapError, outcome_check, h]
  rfl

/-- A renewal is a decision and, where it or the caller asks for one, a bundle. -/
theorem outcome_renew_of_ok {d : Decision}
    (h : (s.policy.evaluate pair now).outcome = .ok d) :
    (s.renew source i pair now force fullName).outcome =
      if d.rotate || force then
        ((s.issue source i fullName).outcome.mapError RenewError.issue).map fun b => ⟨d, some b⟩
      else .ok ⟨d, none⟩ := by
  unfold renew
  rw [Traced.outcome_bind, Traced.outcome_mapError, outcome_check, h]
  dsimp only [Except.mapError, Except.bind]
  split
  · rw [Traced.outcome_bind, Traced.outcome_mapError]
    cases (s.issue source i fullName).outcome <;> rfl
  · rfl

/-- A pair that stays is checked, and nothing else happens. -/
theorem renew_of_kept (source : Rsa.KeySource) (i : Identity) (fullName : Option Bool)
    {d : Decision} (h : (s.policy.evaluate pair now).outcome = .ok d)
    (stay : (d.rotate || force) = false) :
    s.renew source i pair now force fullName = ⟨(s.check pair now).events, .ok ⟨d, none⟩⟩ := by
  have checked : ((s.check pair now).mapError RenewError.evaluation).outcome = .ok d := by
    rw [Traced.outcome_mapError, outcome_check, h]
    rfl
  have idle : ¬ (d.rotate || force) = true := by
    rw [stay]
    decide
  unfold renew
  rw [Traced.bind_of_ok _ checked, if_neg idle, Traced.events_pure, List.append_nil]
  rfl

end Service

end Lifecycle

end CertRenewal
