import CertRenewal.Proofs.Decisions

/-
  How far the fail-safe rule reaches. A certificate that cannot be read counts as one that has to
  be replaced, whatever its bytes are, and does not stand in the way of a new one. The rule ends
  where the text holds a certificate of an unknown version, or one that ends in the year 0: of
  these there is no decision, and no renewal even on demand. Main statement:
  `failSafe_iff_not_isSpoiled`, which draws this line exactly.
-/

namespace CertRenewal

/-! ## Texts that spoil a decision -/

namespace Certificate

/-- The text holds a certificate, and the fault that it has is not taken for unreadable. -/
def HasAnomaly (data : Bytes) (a : Anomaly) : Prop :=
  ∃ c, Holds data c ∧
    ((¬ c.IsKnown ∧ a = .unknownVersion c.body.version) ∨
      (c.IsKnown ∧ c.lastSecond.year = 0 ∧ a = .yearZero))

theorem expiration_anomalous_iff {data : Bytes} {a : Anomaly} :
    expiration data = .error (.anomalous a) ↔ HasAnomaly data a := by
  constructor
  · intro h
    by_cases held : ∃ c, Holds data c
    · obtain ⟨c, hc⟩ := held
      refine ⟨c, hc, ?_⟩
      rw [expiration_of_holds hc] at h
      by_cases known : c.IsKnown
      · rw [if_pos known] at h
        split at h
        · rename_i year
          cases h
          exact .inr ⟨known, year, rfl⟩
        · cases h
      · rw [if_neg known] at h
        cases h
        exact .inl ⟨known, rfl⟩
    · obtain ⟨reason, hr⟩ := expiration_of_not_holds (not_exists.1 held)
      rw [hr] at h
      cases h
  · rintro ⟨c, hc, ⟨unknown, rfl⟩ | ⟨known, year, rfl⟩⟩
    · rw [expiration_of_holds hc, if_neg unknown]
    · rw [expiration_of_holds hc, if_pos known, if_pos year]

end Certificate

namespace Rotation

open Certificate

/-- There is a pair, and its certificate has an anomaly. -/
def IsSpoiled (pair : Option Pair) : Prop :=
  ∃ kept a, pair = some kept ∧ HasAnomaly kept.certificate a

variable {p : Policy} {pair : Option Pair} {now : Present}

/-- Evaluation fails for anomalies of a certificate only, and says which one it was. -/
theorem Policy.outcome_evaluate_eq_error_iff (told : now.instant?.isSome) (e : EvaluationError) :
    (p.evaluate pair now).outcome = .error e ↔
      ∃ kept a, pair = some kept ∧ HasAnomaly kept.certificate a ∧ e = .certificate a := by
  cases pair with
  | none =>
    rw [Policy.outcome_evaluate_none]
    constructor
    · intro h
      cases h
    · rintro ⟨_, _, h, -⟩
      cases h
  | some kept =>
    constructor
    · intro h
      cases he : expiration kept.certificate with
      | ok t =>
        obtain ⟨n, hn⟩ := Option.isSome_iff_exists.1 told
        rw [Policy.outcome_evaluate_dated he hn] at h
        cases h
      | error fault =>
        cases fault with
        | unreadable reason =>
          rw [Policy.outcome_evaluate_unreadable he] at h
          cases h
        | anomalous a =>
          rw [Policy.outcome_evaluate_anomalous he] at h
          cases h
          exact ⟨kept, a, rfl, expiration_anomalous_iff.1 he, rfl⟩
    · rintro ⟨_, a, h, spoiled, rfl⟩
      cases h
      exact Policy.outcome_evaluate_anomalous (expiration_anomalous_iff.2 spoiled)

/-- There is a decision unless the pair is spoiled. -/
theorem Policy.exists_decision_iff (told : now.instant?.isSome) :
    (∃ d, (p.evaluate pair now).outcome = .ok d) ↔ ¬ IsSpoiled pair := by
  constructor
  · rintro ⟨d, hd⟩ ⟨kept, a, hp, spoiled⟩
    have := (Policy.outcome_evaluate_eq_error_iff (p := p) told _).2 ⟨kept, a, hp, spoiled, rfl⟩
    rw [hd] at this
    cases this
  · intro sound
    cases h : (p.evaluate pair now).outcome with
    | ok d => exact ⟨d, rfl⟩
    | error e =>
      obtain ⟨kept, a, hp, spoiled, -⟩ := (Policy.outcome_evaluate_eq_error_iff told e).1 h
      exact absurd ⟨kept, a, hp, spoiled⟩ sound

end Rotation

namespace Lifecycle.Service

open Certificate Rotation

variable {s : Service} {source : Rsa.KeySource} {i : Identity} {pair : Option Pair}
  {now : Present} {fullName : Option Bool}

/-- A renewal of a pair that is not spoiled fails for the reasons of an issue only. -/
theorem outcome_renew_ne_evaluation {d : Decision}
    (h : (s.policy.evaluate pair now).outcome = .ok d) (force : Bool) (e : EvaluationError) :
    (s.renew source i pair now force fullName).outcome ≠ .error (.evaluation e) := by
  rw [outcome_renew_of_ok h]
  split
  · cases (s.issue source i fullName).outcome with
    | ok b => intro h; cases h
    | error f => intro h; cases h
  · intro h
    cases h

/-! ## The line -/

/-- Unless the pair is spoiled, there is a decision, a check returns it, a renewal fails for the
reasons of an issue only, and a demanded one comes to what the issue comes to. A text without a
certificate is unreadable. With a spoiled pair there is neither a decision nor a renewal. -/
theorem failSafe_iff_not_isSpoiled (s : Service) (source : Rsa.KeySource) (i : Identity)
    (pair : Option Pair) (now : Present) (told : now.instant?.isSome) (fullName : Option Bool) :
    ((∃ d, (s.policy.evaluate pair now).outcome = .ok d) ↔ ¬ IsSpoiled pair) ∧
      (s.check pair now).outcome = (s.policy.evaluate pair now).outcome ∧
      (∀ kept, pair = some kept → (∀ c, ¬ Holds kept.certificate c) →
        ∃ d, (s.policy.evaluate pair now).outcome = .ok d ∧ d.rotate = true ∧
          d.reason = .unreadable) ∧
      (∀ force, (∃ e, (s.renew source i pair now force fullName).outcome =
        .error (.evaluation e)) ↔ IsSpoiled pair) ∧
      (¬ IsSpoiled pair → ∃ d, (s.renew source i pair now true fullName).outcome =
        ((s.issue source i fullName).outcome.mapError RenewError.issue).map
          fun b => ⟨d, some b⟩) := by
  have decided : (∃ d, (s.policy.evaluate pair now).outcome = .ok d) ↔ ¬ IsSpoiled pair :=
    Policy.exists_decision_iff told
  refine ⟨decided, outcome_check s pair now, ?_, ?_, ?_⟩
  · rintro kept rfl absent
    obtain ⟨reason, hr⟩ := expiration_of_not_holds absent
    exact ⟨.unreadable, Policy.outcome_evaluate_unreadable hr, rfl, rfl⟩
  · intro force
    constructor
    · rintro ⟨e, he⟩
      by_cases spoiled : IsSpoiled pair
      · exact spoiled
      · obtain ⟨d, hd⟩ := decided.2 spoiled
        exact absurd he (outcome_renew_ne_evaluation hd force e)
    · rintro ⟨kept, a, hp, spoiled⟩
      exact ⟨_, outcome_renew_of_error
        ((Policy.outcome_evaluate_eq_error_iff told _).2 ⟨kept, a, hp, spoiled, rfl⟩)⟩
  · intro sound
    obtain ⟨d, hd⟩ := decided.2 sound
    refine ⟨d, ?_⟩
    rw [outcome_renew_of_ok hd, Bool.or_true, if_pos rfl]

/-- With the certificate of the sample there is a decision. -/
theorem failSafe_iff_not_isSpoiled_sample :
    ∃ d, (Service.standard.policy.evaluate (some samplePair)
      (.named ⟨⟨2026, 1, 1, 0, 0, 0⟩, 0, none⟩)).outcome = .ok d := by
  refine (failSafe_iff_not_isSpoiled .standard (.broken "") ⟨"webhook", "default", "", rfl, rfl⟩
    (some samplePair) (.named ⟨⟨2026, 1, 1, 0, 0, 0⟩, 0, none⟩) rfl none).1.2 ?_
  rintro ⟨kept, a, hp, spoiled⟩
  cases hp
  have := expiration_anomalous_iff.2 spoiled
  rw [expiration_samplePair] at this
  cases this

/-- The pair whose certificate is of the version 1, which does not exist. -/
def spoiledPair : Pair :=
  ⟨Pem.write (block (sample 1 ⟨.short, ⟨2027, 1, 1, 0, 0, 0⟩⟩).encode), []⟩

theorem isSpoiled_spoiledPair : IsSpoiled (some spoiledPair) := by
  refine ⟨spoiledPair, .unknownVersion 1, rfl, sample 1 ⟨.short, ⟨2027, 1, 1, 0, 0, 0⟩⟩, ?_, ?_⟩
  · rw [spoiledPair, holds_write_iff]
    decide +kernel
  · exact .inl ⟨by decide, rfl⟩

/-- A certificate of an unknown version stops the standard policy, and stands in the way of a
renewal on demand. -/
theorem not_failSafe_unknownVersion :
    ¬ (∃ d, (Policy.standard.evaluate (some spoiledPair)
        (.named ⟨⟨2026, 1, 1, 0, 0, 0⟩, 0, some ⟨0⟩⟩)).outcome = .ok d) ∧
      ∀ source i, ∃ e, (Service.standard.renew source i (some spoiledPair)
        (.named ⟨⟨2026, 1, 1, 0, 0, 0⟩, 0, some ⟨0⟩⟩) true none).outcome =
          .error (.evaluation e) := by
  obtain ⟨kept, a, hp, spoiled⟩ := isSpoiled_spoiledPair
  have failed : (Policy.standard.evaluate (some spoiledPair)
      (.named ⟨⟨2026, 1, 1, 0, 0, 0⟩, 0, some ⟨0⟩⟩)).outcome = .error (.certificate a) :=
    (Policy.outcome_evaluate_eq_error_iff rfl _).2 ⟨kept, a, hp, spoiled, rfl⟩
  constructor
  · rw [failed]
    rintro ⟨d, h⟩
    cases h
  · intro source i
    exact ⟨_, outcome_renew_of_error failed⟩

end Lifecycle.Service

end CertRenewal
