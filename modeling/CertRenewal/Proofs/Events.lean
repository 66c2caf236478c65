import CertRenewal.Lifecycle.Call
import CertRenewal.Proofs.Outcomes

/-
  What the operations tell, event by event. A check ends in one of three ways, which `Checks`
  lists. For the issuing of a bundle there is one equation for each way it can go, with what led
  there: no key, no request for the key, or both. A renewal tells what the check tells and then,
  if it issues something, what the issuing tells. A call tells what its operation does.
-/

namespace CertRenewal

open Telemetry Rotation

/-- A value that is made into another one tells nothing. -/
theorem Telemetry.Traced.bind_pure_eq {ε α β : Type} (x : Traced ε α) (f : α → β) :
    (x >>= fun a => pure (f a)) = ⟨x.events, x.outcome.map f⟩ := by
  cases h : x.outcome with
  | ok a =>
    rw [bind_of_ok _ h, events_pure, List.append_nil]
    rfl
  | error e =>
    rw [bind_of_error _ h]
    rfl

/-! ## Decisions -/

namespace Lifecycle

/-- What is told of a decision. -/
def toldDecision (d : Decision) : List Event :=
  [.sample (.rotationDecided d.reason d.rotate),
    .spanEnded ⟨.evaluate, Policy.attributes d, false⟩, .log (.rotationChecked d)]

/-- What is told of a decision that could not be reached. -/
def toldNoDecision : List Event := [.spanEnded ⟨.evaluate, [], true⟩]

/-- The ways in which a check ends. -/
inductive Checks : Traced EvaluationError Decision → Prop where
  | decided {d : Decision} (readable : d ≠ .unreadable) : Checks ⟨toldDecision d, .ok d⟩
  | unreadable (reason : Certificate.ReadError) :
      Checks ⟨.log (.certificateUnreadable reason) :: toldDecision .unreadable, .ok .unreadable⟩
  | undecided (e : EvaluationError) : Checks ⟨toldNoDecision, .error e⟩

namespace Service

theorem checks (s : Service) (pair : Option Pair) (now : Present) : Checks (s.check pair now) := by
  unfold check Policy.evaluate Policy.judge
  match pair with
  | none => exact .decided nofun
  | some pair =>
    dsimp only
    rcases Certificate.expiration pair.certificate with (reason | anomaly) | t
    · exact .unreadable reason
    · exact .undecided (.certificate anomaly)
    · match now.instant? with
      | none => exact .undecided .floatingClock
      | some n =>
        refine .decided ?_
        unfold Policy.compare
        dsimp only
        split <;> exact nofun

/-- A check without a decision tells that it failed, and nothing else. -/
theorem check_of_undecided {s : Service} {pair : Option Pair} {now : Present} {e : EvaluationError}
    (h : (s.policy.evaluate pair now).outcome = .error e) :
    s.check pair now = ⟨toldNoDecision, .error e⟩ := by
  have shape := s.checks pair now
  rw [← outcome_check] at h
  generalize s.check pair now = x at shape h
  cases shape with
  | decided => cases h
  | unreadable => cases h
  | undecided e' =>
    obtain rfl := Except.error.inj h
    rfl

/-! ## Bundles -/

/-- What is told of a key that was made. -/
def toldKey (s : Service) : List Event :=
  [.sample (.keyGenerated s.keySize), .sample .keyDuration]

/-- What is told when a span ends that began with these attributes. -/
def toldEnd (operation : Operation) (attributes : List Attribute) (failed : Bool) : List Event :=
  [.spanEnded ⟨operation, attributes, failed⟩]

/-- What a span tells of an issuing before it has come to anything. -/
def issueAttributes (i : Identity) : List Attribute :=
  [("service", .text i.service), ("namespace", .text i.namespaceName)]

section Issue

variable {s : Service} {source : Rsa.KeySource} {i : Identity} {fullName : Option Bool}
  {key : Option Rsa.PrivateKey}

theorem generate_of_error {bits : Int} {f : Rsa.GenerationFailure}
    (h : source.draw bits = .error f) : generate source bits = ⟨[], .error f⟩ := by
  unfold generate
  rw [h]
  rfl

theorem generate_of_ok {bits : Int} (h : source.draw bits = .ok key) :
    generate source bits = ⟨[.sample (.keyGenerated bits), .sample .keyDuration], .ok key⟩ := by
  unfold generate
  rw [h]
  rfl

/-- A key that was drawn goes into the request. -/
theorem outcome_generate_of_ok (i : Identity) {bits : Int} (h : source.draw bits = .ok key) :
    (((generate source bits).onError (keyFailed i)).mapError IssueError.key).outcome = .ok key := by
  rw [generate_of_ok h]
  rfl

theorem build_of_refused (b : Builder) {full : Bool} {f : BuildFault}
    (h : Builder.certify key i full = .error f) :
    b.build key i full =
      ⟨toldEnd .build (Builder.attributes i full) true, .error ⟨i.inClusterName, f⟩⟩ := by
  unfold Builder.build
  rw [h]
  rfl

theorem build_of_certified (b : Builder) {full : Bool} {c : Pkcs10.Request}
    (h : Builder.certify key i full = .ok c) :
    b.build key i full =
      ⟨.sample (.requestBuilt (Host.kind i.host)) ::
          toldEnd .build (Builder.attributes i full) false,
        .ok (b.complete i full c)⟩ := by
  unfold Builder.build
  rw [h]
  rfl

/-- No key: the failure is told, and nothing of a request. -/
theorem issue_of_no_key (s : Service) (i : Identity) (fullName : Option Bool)
    {f : Rsa.GenerationFailure} (drawn : source.draw s.keySize = .error f) :
    s.issue source i fullName =
      ⟨keyFailed i f ++ toldEnd .issue (issueAttributes i) true, .error (.key f)⟩ := by
  unfold issue
  rw [generate_of_error drawn]
  rfl

/-- A key and no request: the key is told, and then the failure. -/
theorem issue_of_no_request (s : Service) (fullName : Option Bool) {f : BuildFault}
    (drawn : source.draw s.keySize = .ok key)
    (refused : Builder.certify key i (fullName.getD s.useFullName) = .error f) :
    s.issue source i fullName =
      ⟨s.toldKey ++
          (toldEnd .build (Builder.attributes i (fullName.getD s.useFullName)) true ++
            requestFailed i ⟨i.inClusterName, f⟩) ++
          toldEnd .issue (issueAttributes i) true,
        .error (.request ⟨i.inClusterName, f⟩)⟩ := by
  unfold issue
  rw [Traced.bind_of_ok _ (outcome_generate_of_ok i drawn), generate_of_ok drawn,
    build_of_refused s.builder refused]
  rfl

/-- A key and a request: both are told. -/
theorem issue_of_certified (s : Service) (fullName : Option Bool) {c : Pkcs10.Request}
    (drawn : source.draw s.keySize = .ok key)
    (certified : Builder.certify key i (fullName.getD s.useFullName) = .ok c) :
    s.issue source i fullName =
      ⟨s.toldKey ++
          (.sample (.requestBuilt (Host.kind i.host)) ::
            toldEnd .build (Builder.attributes i (fullName.getD s.useFullName)) false ++
            [.log (requestBuilt (s.builder.complete i (fullName.getD s.useFullName) c))]) ++
          toldEnd .issue (issueAttributes i ++ [("request_name", .text i.requestName)]) false,
        .ok ⟨keyText key, s.builder.complete i (fullName.getD s.useFullName) c⟩⟩ := by
  unfold issue
  rw [Traced.bind_of_ok _ (outcome_generate_of_ok i drawn), generate_of_ok drawn,
    build_of_certified s.builder certified]
  rfl

end Issue

/-! ## Renewals -/

section Renew

variable {s : Service} {source : Rsa.KeySource} {i : Identity} {pair : Option Pair}
  {now : Present} {force : Bool} {fullName : Option Bool}

/-- A renewal without a decision tells what the check told. -/
theorem renew_of_undecided (source : Rsa.KeySource) (i : Identity) (force : Bool)
    (fullName : Option Bool) {e : EvaluationError}
    (h : (s.policy.evaluate pair now).outcome = .error e) :
    s.renew source i pair now force fullName = ⟨toldNoDecision, .error (.evaluation e)⟩ := by
  unfold renew
  rw [check_of_undecided h]
  rfl

/-- A renewal that issues something tells what the check told, and then what the issuing tells. -/
theorem renew_of_decided (source : Rsa.KeySource) (i : Identity) (fullName : Option Bool)
    {d : Decision} (h : (s.policy.evaluate pair now).outcome = .ok d)
    (go : (d.rotate || force) = true) :
    s.renew source i pair now force fullName =
      ⟨(s.check pair now).events ++ (s.issue source i fullName).events,
        ((s.issue source i fullName).outcome.mapError RenewError.issue).map fun b =>
          ⟨d, some b⟩⟩ := by
  have checked : ((s.check pair now).mapError RenewError.evaluation).outcome = .ok d := by
    rw [Traced.outcome_mapError, outcome_check, h]
    rfl
  unfold renew
  rw [Traced.bind_of_ok _ checked, if_pos go, Traced.bind_pure_eq]
  rfl

end Renew

/-! ## Calls -/

theorem perform_check (s : Service) (pair : Option Pair) (now : Present) :
    s.perform (.check pair now) =
      ⟨(s.check pair now).events,
        ((s.check pair now).outcome.mapError RenewError.evaluation).map Answer.decision⟩ :=
  Traced.bind_pure_eq _ _

theorem perform_issue (s : Service) (source : Rsa.KeySource) (i : Identity)
    (fullName : Option Bool) :
    s.perform (.issue source i fullName) =
      ⟨(s.issue source i fullName).events,
        ((s.issue source i fullName).outcome.mapError RenewError.issue).map Answer.bundle⟩ :=
  Traced.bind_pure_eq _ _

theorem perform_renew (s : Service) (source : Rsa.KeySource) (i : Identity) (pair : Option Pair)
    (now : Present) (force : Bool) (fullName : Option Bool) :
    s.perform (.renew source i pair now force fullName) =
      ⟨(s.renew source i pair now force fullName).events,
        (s.renew source i pair now force fullName).outcome.map Answer.outcome⟩ :=
  Traced.bind_pure_eq _ _

end Service

end Lifecycle

end CertRenewal
