import CertRenewal.Proofs.Decisions
import CertRenewal.Proofs.Events
import CertRenewal.Telemetry.Report

/-
  The books of a controller's life. What an observer counts, in samples and in log records, and
  what the callers see, in answers and in errors, agree at every point between two calls,
  whatever the calls were and however they ended. Main statement: `accounts_run`. `Accounts` says
  how the counts hang together; it holds of what each call tells, and it is kept when events are
  put behind one another.
-/

namespace CertRenewal.Lifecycle

open Telemetry Rotation

/-! ## What an observer counts -/

/-- The instruments by their names. -/
def decisionsTotal : String := "webhook_tls_rotation_decisions_total"
def keysTotal : String := "webhook_tls_keys_generated_total"
def keyDurations : String := "webhook_tls_key_generation_duration_seconds"
def requestsTotal : String := "webhook_tls_signing_requests_built_total"
def failuresTotal : String := "webhook_tls_signing_request_failures_total"

/-- The text of a label of a sample. -/
def label? (name : String) (x : Sample) : Option String :=
  ((x.labels?.getD []).lookup name).bind Json.text?

/-- How many samples an instrument has. -/
def sampled (instrument : String) (events : List Event) : Nat :=
  (samples events).countP fun x => x.instrument == instrument

/-- How many samples an instrument has with a value of a label. -/
def labelled (instrument name value : String) (events : List Event) : Nat :=
  (samples events).countP fun x => x.instrument == instrument && label? name x == some value

/-- How many records there are with a severity and a message. -/
def logged (severity : Severity) (message : String) (events : List Event) : Nat :=
  (records events).countP fun r => r.severity == severity && r.message == message

section Append

variable (a b : List Event)

theorem samples_append : samples (a ++ b) = samples a ++ samples b := List.filterMap_append

theorem sampled_append (instrument : String) :
    sampled instrument (a ++ b) = sampled instrument a + sampled instrument b := by
  rw [sampled, samples_append, List.countP_append]
  rfl

theorem labelled_append (instrument name value : String) :
    labelled instrument name value (a ++ b) =
      labelled instrument name value a + labelled instrument name value b := by
  rw [labelled, samples_append, List.countP_append]
  rfl

theorem logged_append (severity : Severity) (message : String) :
    logged severity message (a ++ b) = logged severity message a + logged severity message b := by
  rw [logged, records, List.filterMap_append, List.countP_append]
  rfl

end Append

/-! ## What the callers see -/

/-- The evaluation that a call begins with, and how it ends; an issuing has none. -/
def Call.evaluation? (s : Service) : Call → Option (Except EvaluationError Decision)
  | .check pair now => some (s.policy.evaluate pair now).outcome
  | .issue _ _ _ => none
  | .renew _ _ pair now _ _ => some (s.policy.evaluate pair now).outcome

/-- Whether the evaluation of a call gave a decision. -/
def Call.isDecided (s : Service) (c : Call) : Bool :=
  (c.evaluation? s).any fun x => x.toOption.isSome

/-- Whether a call tries to issue a bundle. -/
def Call.isAttempt (s : Service) : Call → Bool
  | .check _ _ => false
  | .issue _ _ _ => true
  | .renew _ _ pair now force _ =>
    (s.policy.evaluate pair now).outcome.toOption.any fun d => d.rotate || force

/-- Whether an answer holds a bundle. -/
def Answer.hasBundle : Answer → Bool
  | .decision _ => false
  | .bundle _ => true
  | .outcome o => o.issued

/-- Whether a call ended for want of a key. -/
def isKeyError : Except RenewError Answer → Bool
  | .error (.issue (.key _)) => true
  | _ => false

/-- Whether a call ended for want of a request. -/
def isRequestError : Except RenewError Answer → Bool
  | .error (.issue (.request _)) => true
  | _ => false

/-- Numbers of evaluations that gave a decision, of attempts to issue a bundle, of bundles, and of
the two errors that an attempt can end in. -/
structure Tally where
  decisions : Nat
  attempts : Nat
  bundles : Nat
  keyErrors : Nat
  requestErrors : Nat
deriving DecidableEq, Repr

instance : Add Tally where
  add t u :=
    ⟨t.decisions + u.decisions, t.attempts + u.attempts, t.bundles + u.bundles,
      t.keyErrors + u.keyErrors, t.requestErrors + u.requestErrors⟩

/-- What the callers of some calls see. -/
def tally (calls : List (Service × Call)) : Tally where
  decisions := calls.countP fun (s, c) => c.isDecided s
  attempts := calls.countP fun (s, c) => c.isAttempt s
  bundles := (performAll calls).countP fun x => x.outcome.toOption.any Answer.hasBundle
  keyErrors := (performAll calls).countP fun x => isKeyError x.outcome
  requestErrors := (performAll calls).countP fun x => isRequestError x.outcome

theorem tally_append (a b : List (Service × Call)) : tally (a ++ b) = tally a + tally b := by
  unfold tally performAll
  rw [List.map_append, List.countP_append, List.countP_append, List.countP_append,
    List.countP_append, List.countP_append]
  rfl

theorem eventsOf_append (a b : List (Service × Call)) :
    eventsOf (a ++ b) = eventsOf a ++ eventsOf b := by
  unfold eventsOf performAll
  rw [List.map_append, List.flatMap_append]

/-! ## The books -/

/-- The counts of an observer and the numbers that the callers see agree. -/
structure Accounts (t : Tally) (events : List Event) : Prop where
  /-- Every decision is counted, logged and returned. -/
  decisions : sampled decisionsTotal events = logged .debug "rotation_checked" events
  checked : logged .debug "rotation_checked" events = t.decisions
  /-- Every certificate that could not be read is counted and warned of. -/
  unreadable : labelled decisionsTotal "reason" "unreadable" events =
    logged .warning "certificate_unreadable" events
  /-- The pairs that stay are those with a valid certificate. -/
  labels : ∀ x ∈ samples events, x.instrument = decisionsTotal →
    (label? "rotate" x = some "false" ↔ label? "reason" x = some "valid")
  /-- Every attempt makes a key or fails for want of one. -/
  attempts : t.attempts = sampled keysTotal events + labelled failuresTotal "stage" "key" events
  /-- Every key comes to a request or fails to. -/
  keys : sampled keysTotal events =
    sampled requestsTotal events + labelled failuresTotal "stage" "csr" events
  durations : sampled keyDurations events = sampled keysTotal events
  /-- Every request is counted, logged and returned. -/
  built : logged .info "signing_request_built" events = sampled requestsTotal events
  bundles : sampled requestsTotal events = t.bundles
  /-- Every failure is counted, logged and raised. -/
  keyFailures : labelled failuresTotal "stage" "key" events =
    logged .error "private_key_generation_failed" events
  keyErrors : logged .error "private_key_generation_failed" events = t.keyErrors
  requestFailures : labelled failuresTotal "stage" "csr" events =
    logged .error "signing_request_failed" events
  requestErrors : logged .error "signing_request_failed" events = t.requestErrors

/-- Books that agree still agree when they are put together. -/
theorem Accounts.append {t u : Tally} {a b : List Event} (ha : Accounts t a)
    (hb : Accounts u b) : Accounts (t + u) (a ++ b) where
  decisions := by rw [sampled_append, logged_append, ha.decisions, hb.decisions]
  checked := by rw [logged_append, ha.checked, hb.checked]; rfl
  unreadable := by rw [labelled_append, logged_append, ha.unreadable, hb.unreadable]
  labels := by
    intro x hx
    rw [samples_append] at hx
    rcases List.mem_append.1 hx with hx | hx
    · exact ha.labels x hx
    · exact hb.labels x hx
  attempts := by
    have sum : (t + u).attempts = t.attempts + u.attempts := rfl
    rw [sum, sampled_append, labelled_append, ha.attempts, hb.attempts]
    omega
  keys := by
    rw [sampled_append, sampled_append, labelled_append, ha.keys, hb.keys]
    omega
  durations := by rw [sampled_append, sampled_append, ha.durations, hb.durations]
  built := by rw [logged_append, sampled_append, ha.built, hb.built]
  bundles := by rw [sampled_append, ha.bundles, hb.bundles]; rfl
  keyFailures := by rw [labelled_append, logged_append, ha.keyFailures, hb.keyFailures]
  keyErrors := by rw [logged_append, ha.keyErrors, hb.keyErrors]; rfl
  requestFailures := by
    rw [labelled_append, logged_append, ha.requestFailures, hb.requestFailures]
  requestErrors := by rw [logged_append, ha.requestErrors, hb.requestErrors]; rfl

/-! ## One operation -/

/-- The part of a check in what callers see. -/
def tallyCheck : Except EvaluationError Decision → Tally
  | .ok _ => ⟨1, 0, 0, 0, 0⟩
  | .error _ => ⟨0, 0, 0, 0, 0⟩

/-- The part of an issuing in what callers see. -/
def tallyIssue : Except IssueError Bundle → Tally
  | .ok _ => ⟨0, 1, 1, 0, 0⟩
  | .error (.key _) => ⟨0, 1, 0, 1, 0⟩
  | .error (.request _) => ⟨0, 1, 0, 0, 1⟩

theorem rotate_eq_false_iff (d : Decision) : d.rotate = false ↔ d.reason = .valid := by
  cases d <;> simp [Decision.rotate, Decision.reason]

/-- The label that tells whether a pair stays follows from the label that tells why. -/
theorem label_rotate_iff {reason : Reason} {rotate : Bool}
    (h : rotate = false ↔ reason = .valid) :
    label? "rotate" (.rotationDecided reason rotate) = some "false" ↔
      label? "reason" (.rotationDecided reason rotate) = some "valid" := by
  revert h
  cases reason <;> cases rotate <;> decide

theorem accounts_toldDecision {d : Decision} (readable : d ≠ .unreadable) :
    Accounts ⟨1, 0, 0, 0, 0⟩ (toldDecision d) := by
  refine ⟨rfl, rfl, ?_, ?_, rfl, rfl, rfl, rfl, rfl, rfl, rfl, rfl, rfl⟩
  · cases d with
    | unreadable => exact absurd rfl readable
    | notProvisioned => rfl
    | withinReserve => rfl
    | valid => rfl
  · intro x hx _
    obtain rfl := List.mem_singleton.1 hx
    exact label_rotate_iff (rotate_eq_false_iff d)

theorem accounts_toldUnreadable (reason : Certificate.ReadError) :
    Accounts ⟨1, 0, 0, 0, 0⟩
      (.log (.certificateUnreadable reason) :: toldDecision .unreadable) := by
  refine ⟨rfl, rfl, rfl, ?_, rfl, rfl, rfl, rfl, rfl, rfl, rfl, rfl, rfl⟩
  intro x hx _
  obtain rfl := List.mem_singleton.1 hx
  exact label_rotate_iff (rotate_eq_false_iff .unreadable)

/-- Where no decision is counted there are no labels of decisions. -/
theorem labels_of_sampled_eq_zero {events : List Event}
    (h : sampled decisionsTotal events = 0) :
    ∀ x ∈ samples events, x.instrument = decisionsTotal →
      (label? "rotate" x = some "false" ↔ label? "reason" x = some "valid") := by
  intro x hx named
  exact absurd (beq_iff_eq.2 named) (List.countP_eq_zero.1 h x hx)

/-- Events without samples and without records leave all counts as they are. -/
theorem accounts_toldNoDecision : Accounts ⟨0, 0, 0, 0, 0⟩ toldNoDecision :=
  ⟨rfl, rfl, rfl, labels_of_sampled_eq_zero rfl, rfl, rfl, rfl, rfl, rfl, rfl, rfl, rfl, rfl⟩

theorem accounts_check (s : Service) (pair : Option Pair) (now : Present) :
    Accounts (tallyCheck (s.check pair now).outcome) (s.check pair now).events := by
  have shape := s.checks pair now
  generalize s.check pair now = x at shape
  cases shape with
  | decided readable => exact accounts_toldDecision readable
  | unreadable reason => exact accounts_toldUnreadable reason
  | undecided => exact accounts_toldNoDecision

theorem accounts_issue (s : Service) (source : Rsa.KeySource) (i : Identity)
    (fullName : Option Bool) :
    Accounts (tallyIssue (s.issue source i fullName).outcome)
      (s.issue source i fullName).events := by
  cases drawn : source.draw s.keySize with
  | error f =>
    rw [Service.issue_of_no_key s i fullName drawn]
    exact ⟨rfl, rfl, rfl, labels_of_sampled_eq_zero rfl, rfl, rfl, rfl, rfl, rfl, rfl, rfl, rfl,
      rfl⟩
  | ok key =>
    cases certified : Builder.certify key i (fullName.getD s.useFullName) with
    | error f =>
      rw [Service.issue_of_no_request s fullName drawn certified]
      exact ⟨rfl, rfl, rfl, labels_of_sampled_eq_zero rfl, rfl, rfl, rfl, rfl, rfl, rfl, rfl, rfl,
        rfl⟩
    | ok c =>
      rw [Service.issue_of_certified s fullName drawn certified]
      exact ⟨rfl, rfl, rfl, labels_of_sampled_eq_zero rfl, rfl, rfl, rfl, rfl, rfl, rfl, rfl, rfl,
        rfl⟩

/-! ## Calls and runs of calls -/

section Call

variable (s : Service) (source : Rsa.KeySource) (i : Identity) (pair : Option Pair)
  (now : Present) (fullName : Option Bool)

theorem tally_singleton (c : Call) :
    tally [(s, c)] =
      ⟨if c.isDecided s then 1 else 0, if c.isAttempt s then 1 else 0,
        if (s.perform c).outcome.toOption.any Answer.hasBundle then 1 else 0,
        if isKeyError (s.perform c).outcome then 1 else 0,
        if isRequestError (s.perform c).outcome then 1 else 0⟩ := by
  simp only [tally, performAll, List.map_cons, List.map_nil, List.countP_singleton]

theorem tally_check : tally [(s, .check pair now)] = tallyCheck (s.check pair now).outcome := by
  have evaluated : Call.evaluation? s (.check pair now) = some (s.check pair now).outcome := by
    rw [Service.outcome_check]
    rfl
  rw [tally_singleton, Service.perform_check, Call.isDecided, evaluated]
  cases (s.check pair now).outcome <;> rfl

theorem tally_issue :
    tally [(s, .issue source i fullName)] = tallyIssue (s.issue source i fullName).outcome := by
  rw [tally_singleton, Service.perform_issue]
  rcases (s.issue source i fullName).outcome with (f | f) | b <;> rfl

theorem tally_renew_of_undecided (force : Bool) {e : EvaluationError}
    (h : (s.policy.evaluate pair now).outcome = .error e) :
    tally [(s, .renew source i pair now force fullName)] = ⟨0, 0, 0, 0, 0⟩ := by
  simp only [tally_singleton, Service.perform_renew, Service.renew_of_undecided _ _ _ _ h,
    Call.isDecided, Call.evaluation?, Call.isAttempt, h]
  rfl

theorem tally_renew_of_kept {force : Bool} {d : Decision}
    (h : (s.policy.evaluate pair now).outcome = .ok d) (stay : (d.rotate || force) = false) :
    tally [(s, .renew source i pair now force fullName)] =
      tallyCheck (s.check pair now).outcome := by
  simp only [tally_singleton, Service.perform_renew, Service.renew_of_kept _ _ _ h stay,
    Call.isDecided, Call.evaluation?, Call.isAttempt, Service.outcome_check, h,
    Except.toOption, Option.any_some, stay]
  rfl

theorem tally_renew_of_decided {force : Bool} {d : Decision}
    (h : (s.policy.evaluate pair now).outcome = .ok d) (go : (d.rotate || force) = true) :
    tally [(s, .renew source i pair now force fullName)] =
      tallyCheck (s.check pair now).outcome + tallyIssue (s.issue source i fullName).outcome := by
  simp only [tally_singleton, Service.perform_renew, Service.renew_of_decided _ _ _ h go,
    Call.isDecided, Call.evaluation?, Call.isAttempt, Service.outcome_check, h,
    Except.toOption, Option.any_some, go]
  rcases (s.issue source i fullName).outcome with (f | f) | b <;> rfl

/-- The books of one call. -/
theorem accounts_call (c : Call) : Accounts (tally [(s, c)]) (s.perform c).events := by
  cases c with
  | check pair now =>
    rw [tally_check, Service.perform_check]
    exact accounts_check s pair now
  | issue source i fullName =>
    rw [tally_issue, Service.perform_issue]
    exact accounts_issue s source i fullName
  | renew source i pair now force fullName =>
    rw [Service.perform_renew]
    cases decided : (s.policy.evaluate pair now).outcome with
    | error e =>
      rw [tally_renew_of_undecided _ _ _ _ _ _ _ decided,
        Service.renew_of_undecided _ _ _ _ decided]
      exact accounts_toldNoDecision
    | ok d =>
      cases go : d.rotate || force with
      | false =>
        rw [tally_renew_of_kept _ _ _ _ _ _ decided go, Service.renew_of_kept _ _ _ decided go]
        exact accounts_check s pair now
      | true =>
        rw [tally_renew_of_decided _ _ _ _ _ _ decided go,
          Service.renew_of_decided _ _ _ decided go]
        exact (accounts_check s pair now).append (accounts_issue s source i fullName)

end Call

/-- The books of any calls, by induction on them. -/
theorem accounts_all (calls : List (Service × Call)) :
    Accounts (tally calls) (eventsOf calls) := by
  induction calls with
  | nil =>
    exact ⟨rfl, rfl, rfl, labels_of_sampled_eq_zero rfl, rfl, rfl, rfl, rfl, rfl, rfl, rfl, rfl,
      rfl⟩
  | cons call calls ih =>
    obtain ⟨s, c⟩ := call
    have first : eventsOf [(s, c)] = (s.perform c).events := List.append_nil _
    have both := (accounts_call s c).append ih
    rwa [← first, ← tally_append, ← eventsOf_append] at both

/-- At every point between the calls of a run the books agree. The decisions are those that were
logged and returned, and one is counted as unreadable for every warning; a pair stays exactly if
its certificate is valid. Every attempt to issue a bundle makes a key, with a duration, or fails
for want of one, and every key comes to a request, which is logged and returned, or fails to; and
as many failures are counted as are logged and raised. A call whose evaluation fails changes no
count: it tells of nothing but this evaluation, and the error is the caller's. -/
theorem accounts_run (calls : List (Service × Call)) :
    (∀ n, Accounts (tally (calls.take n)) (eventsOf (calls.take n))) ∧
      ∀ s c e, (s, c) ∈ calls → c.evaluation? s = some (.error e) →
        s.perform c = ⟨toldNoDecision, .error (.evaluation e)⟩ := by
  refine ⟨fun n => accounts_all (calls.take n), ?_⟩
  intro s c e _ failed
  cases c with
  | check pair now =>
    rw [Service.perform_check, Service.check_of_undecided (Option.some.inj failed)]
    rfl
  | issue source i fullName => cases failed
  | renew source i pair now force fullName =>
    rw [Service.perform_renew, Service.renew_of_undecided _ _ _ _ (Option.some.inj failed)]
    rfl

/-- A service that keeps books. -/
def ledgerIdentity : Identity := ⟨"ledger", "books", "10.0.0.1", rfl, rfl⟩

/-- A clock that does not tell the instant. -/
def floatingNow : Present := .clock ⟨⟨2026, 1, 1, 0, 0, 0⟩, 0, none⟩

/-- A renewal on demand, of a certificate that can be read, by such a clock. -/
def floatingRenewal : Call :=
  .renew (.ready none) ledgerIdentity (some samplePair) floatingNow true none

/-- A check without a certificate, an issuing without a key, and a renewal without a decision. -/
def sampleRun : List (Service × Call) :=
  [(.standard, .check none floatingNow),
    (.standard, .issue (.broken "no entropy") ledgerIdentity none),
    (.standard, floatingRenewal)]

/-- One decision was reached, and one attempt to issue a bundle ended for want of a key. -/
theorem accounts_run_sample :
    Accounts ⟨1, 1, 0, 1, 0⟩ (eventsOf sampleRun) ∧
      Service.standard.perform floatingRenewal =
        ⟨toldNoDecision, .error (.evaluation .floatingClock)⟩ := by
  have failed : (Service.standard.policy.evaluate (some samplePair) floatingNow).outcome =
      .error .floatingClock := by
    rw [Policy.outcome_evaluate, Policy.judge]
    simp only [expiration_samplePair]
    rfl
  have parts : tally sampleRun =
      tally [(.standard, .check none floatingNow)] +
        (tally [(.standard, .issue (.broken "no entropy") ledgerIdentity none)] +
          tally [(.standard, floatingRenewal)]) := by
    rw [← tally_append, ← tally_append]
    rfl
  have seen : tally sampleRun = ⟨1, 1, 0, 1, 0⟩ := by
    rw [parts, tally_check, tally_issue, floatingRenewal,
      tally_renew_of_undecided _ _ _ _ _ _ _ failed]
    rfl
  obtain ⟨books, silent⟩ := accounts_run sampleRun
  refine ⟨?_, silent _ _ _ ?_ (congrArg some failed)⟩
  · rw [← seen]
    exact books 3
  · exact List.mem_cons_of_mem _ (List.mem_cons_of_mem _ List.mem_cons_self)

end CertRenewal.Lifecycle
