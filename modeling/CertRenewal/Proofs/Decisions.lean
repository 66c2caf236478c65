import CertRenewal.Proofs.Expiration
import CertRenewal.Proofs.Outcomes

/-
  Which decision a policy comes to. `IsDue` says what the fields of a decision have to be, with
  the time left counted by the calendar and by the fields of the present, its offset included.
  Main statement: `evaluate_exact`, a policy with a window exists exactly when the window is not
  negative, and it decides what is due and nothing else. Of a certificate whose end is told the
  decision is always reached; the two anomalies of certificates have none.
-/

namespace CertRenewal.Rotation

/-! ## What is due -/

/-- The microseconds from a moment to a second of universal time, counted by the calendar. -/
def timeLeft (t : CalendarSecond) (now : Moment) : Int :=
  ((t.elapsed : Int) - now.second.elapsed) * 1000000 - now.microsecond + now.ahead

/-- A decision that rests on no reading of a certificate. -/
def IsBlind (reason : Reason) (d : Decision) : Prop :=
  d.rotate = true ∧ d.reason = reason ∧ d.notAfter = none ∧ d.remaining = none

/-- A decision that rests on the end of a certificate: it stays when at least the window is left,
and is replaced when less is left. -/
def IsInformed (window : Span) (t : CalendarSecond) (now : Moment) (d : Decision) : Prop :=
  ∃ left : Span, left.IsNormal ∧ left.microseconds = timeLeft t now ∧
    d.notAfter = some t ∧ d.remaining = some left ∧
    (window ≤ left → d.rotate = false ∧ d.reason = .valid) ∧
    (left < window → d.rotate = true ∧ d.reason = .withinReserve)

/-- The decision that is due on a pair at a moment, for a window. -/
def IsDue (window : Span) (pair : Option Pair) (now : Moment) (d : Decision) : Prop :=
  match pair with
  | none => IsBlind .notProvisioned d
  | some pair =>
    match Certificate.expiration pair.certificate with
    | .ok t => IsInformed window t now d
    | .error (.unreadable _) => IsBlind .unreadable d
    | .error (.anomalous _) => False

/-! ## One decision is due -/

theorem isBlind_notProvisioned_iff (d : Decision) :
    IsBlind .notProvisioned d ↔ d = .notProvisioned := by
  cases d <;> simp [IsBlind, Decision.reason, Decision.rotate, Decision.notAfter,
    Decision.remaining]

theorem isBlind_unreadable_iff (d : Decision) : IsBlind .unreadable d ↔ d = .unreadable := by
  cases d <;> simp [IsBlind, Decision.reason, Decision.rotate, Decision.notAfter,
    Decision.remaining]

theorem since_eq_timeLeft (t : CalendarSecond) (ht : t.IsDated) (now : Moment)
    (hn : now.IsProper) : (t.instant.since now.instant).microseconds = timeLeft t now := by
  have later : t.instant.microseconds = t.elapsed * 1000000 := by
    rw [← CalendarSecond.seconds_eq_elapsed t ht]
    rfl
  show t.instant.microseconds - now.instant.microseconds = timeLeft t now
  rw [Moment.instant_eq now hn, later, timeLeft]
  omega

/-- What a policy says of an end is what is due, and nothing else is. -/
theorem isInformed_iff (p : Policy) (t : CalendarSecond) (ht : t.IsDated) (now : Moment)
    (hn : now.IsProper) (d : Decision) :
    IsInformed p.window t now d ↔ d = p.compare t now.instant := by
  have counted := since_eq_timeLeft t ht now hn
  constructor
  · rintro ⟨left, -, count, notAfter, remaining, stay, go⟩
    have same : left = t.instant.since now.instant := by
      cases left
      cases h : t.instant.since now.instant
      rw [h] at counted
      exact congrArg Span.mk (count.trans counted.symm)
    subst same
    by_cases less : t.instant.since now.instant < p.window
    · obtain ⟨-, reason⟩ := go less
      unfold Policy.compare
      rw [if_pos less]
      cases d <;> simp_all [Decision.reason, Decision.notAfter, Decision.remaining]
    · obtain ⟨-, reason⟩ := stay (Int.not_lt.1 less)
      unfold Policy.compare
      rw [if_neg less]
      cases d <;> simp_all [Decision.reason, Decision.notAfter, Decision.remaining]
  · rintro rfl
    refine ⟨t.instant.since now.instant, Span.isNormal_since t ht now hn, counted, ?_⟩
    by_cases less : t.instant.since now.instant < p.window
    · unfold Policy.compare
      rw [if_pos less]
      exact ⟨rfl, rfl, fun enough => absurd less (Int.not_lt.2 enough), fun _ => ⟨rfl, rfl⟩⟩
    · unfold Policy.compare
      rw [if_neg less]
      exact ⟨rfl, rfl, fun _ => ⟨rfl, rfl⟩, fun h => absurd h less⟩

/-- A policy decides what is due. -/
theorem outcome_evaluate_iff (p : Policy) (pair : Option Pair) (now : Moment) (hn : now.IsProper)
    (d : Decision) :
    (p.evaluate pair (.named now)).outcome = .ok d ↔ IsDue p.window pair now d := by
  cases pair with
  | none =>
    rw [Policy.outcome_evaluate_none, Except.ok.injEq, eq_comm]
    exact (isBlind_notProvisioned_iff d).symm
  | some pair =>
    cases h : Certificate.expiration pair.certificate with
    | ok t =>
      rw [Policy.outcome_evaluate_dated h rfl, Except.ok.injEq, eq_comm]
      simp only [IsDue, h]
      exact (isInformed_iff p t (Certificate.isDated_of_expiration h) now hn d).symm
    | error f =>
      cases f with
      | unreadable reason =>
        rw [Policy.outcome_evaluate_unreadable h, Except.ok.injEq, eq_comm]
        simp only [IsDue, h]
        exact (isBlind_unreadable_iff d).symm
      | anomalous anomaly =>
        rw [Policy.outcome_evaluate_anomalous h]
        simp [IsDue, h]

/-- Only the instant of the present matters. -/
theorem evaluate_congr (p : Policy) (pair : Option Pair) {now other : Present}
    (h : other.instant? = now.instant?) : p.evaluate pair other = p.evaluate pair now := by
  unfold Policy.evaluate Policy.judge
  rw [h]

/-- Of a pair only the end of its certificate matters. -/
theorem evaluate_congr_pair (p : Policy) {pair other : Pair} (now : Present)
    (h : Certificate.expiration other.certificate = Certificate.expiration pair.certificate) :
    p.evaluate (some other) now = p.evaluate (some pair) now := by
  unfold Policy.evaluate Policy.judge
  dsimp only
  rw [h]

/-! ## The policy as a whole -/

/-- A policy with a window exists exactly when the window is not negative. What it decides on a
pair at a moment is what is due, the same for every way to name the instant, and it keeps no
certificate whose end has passed. -/
theorem evaluate_exact (window : Span) :
    ((∃ p, Policy.make window = .ok p) ↔ 0 ≤ window.microseconds) ∧
      ∀ p, Policy.make window = .ok p → ∀ (pair : Option Pair) (now : Moment), now.IsProper →
        (∀ d, (p.evaluate pair (.named now)).outcome = .ok d ↔ IsDue window pair now d) ∧
        (∀ other : Present, other.instant? = some now.instant →
          (p.evaluate pair other).outcome = (p.evaluate pair (.named now)).outcome) ∧
        ∀ kept t, pair = some kept → Certificate.expiration kept.certificate = .ok t →
          timeLeft t now < 0 →
          ∃ d, (p.evaluate pair (.named now)).outcome = .ok d ∧ d.rotate = true := by
  refine ⟨⟨?_, ?_⟩, ?_⟩
  · rintro ⟨p, hp⟩
    rw [← Policy.make_eq_ok hp]
    exact p.window_nonneg
  · intro h
    exact ⟨⟨window, h⟩, by rw [Policy.make, dif_pos h]⟩
  intro p hp pair now hn
  have same := Policy.make_eq_ok hp
  refine ⟨?_, ?_, ?_⟩
  · intro d
    rw [← same]
    exact outcome_evaluate_iff p pair now hn d
  · intro other ho
    have instants : other.instant? = (Present.named now).instant? := ho
    rw [evaluate_congr p pair instants]
  · rintro kept t rfl ht past
    have dated := Certificate.isDated_of_expiration ht
    have less : t.instant.since now.instant < p.window := by
      have counted := since_eq_timeLeft t dated now hn
      have window := p.window_nonneg
      show (t.instant.since now.instant).microseconds < p.window.microseconds
      omega
    refine ⟨_, Policy.outcome_evaluate_dated ht rfl, ?_⟩
    unfold Policy.compare
    rw [if_pos less]
    rfl

/-- The pair whose certificate ends with the year 2026. -/
def samplePair : Pair :=
  ⟨Pem.write (Certificate.block (Certificate.sample 2 ⟨.short, ⟨2027, 1, 1, 0, 0, 0⟩⟩).encode), []⟩

theorem expiration_samplePair :
    Certificate.expiration samplePair.certificate = .ok ⟨2027, 1, 1, 0, 0, 0⟩ := by
  have held : Certificate.Holds samplePair.certificate
      (Certificate.sample 2 ⟨.short, ⟨2027, 1, 1, 0, 0, 0⟩⟩) := by
    rw [samplePair, Certificate.holds_write_iff]
    decide +kernel
  rw [Certificate.expiration_of_holds held]
  decide

/-- One microsecond past the end, on a clock half a minute behind universal time: without any
window the certificate goes, and the same instant named without an offset says so too. -/
theorem evaluate_exact_past_end :
    ∃ p, Policy.make ⟨0⟩ = .ok p ∧
      ∃ d, IsDue ⟨0⟩ (some samplePair) ⟨⟨2026, 12, 31, 23, 59, 30⟩, 0, some ⟨-30000001⟩⟩ d ∧
        (p.evaluate (some samplePair)
          (.named ⟨⟨2026, 12, 31, 23, 59, 30⟩, 0, some ⟨-30000001⟩⟩)).outcome = .ok d ∧
        (p.evaluate (some samplePair) (.named ⟨⟨2027, 1, 1, 0, 0, 0⟩, 1, none⟩)).outcome = .ok d ∧
        d.rotate = true := by
  have made : Policy.make ⟨0⟩ = .ok ⟨⟨0⟩, by decide⟩ := rfl
  have proper : Moment.IsProper ⟨⟨2026, 12, 31, 23, 59, 30⟩, 0, some ⟨-30000001⟩⟩ :=
    ⟨by decide, by decide, by simp⟩
  have past : timeLeft ⟨2027, 1, 1, 0, 0, 0⟩
      ⟨⟨2026, 12, 31, 23, 59, 30⟩, 0, some ⟨-30000001⟩⟩ < 0 := by
    rw [← since_eq_timeLeft _ (by decide) _ proper]
    decide
  obtain ⟨due, same, gone⟩ := (evaluate_exact ⟨0⟩).2 _ made (some samplePair) _ proper
  obtain ⟨d, reached, rotate⟩ := gone samplePair _ rfl expiration_samplePair past
  exact ⟨_, made, d, (due d).1 reached, reached, (same _ (by decide)).trans reached, rotate⟩

end CertRenewal.Rotation
