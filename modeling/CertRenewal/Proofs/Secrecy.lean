import CertRenewal.Proofs.Decisions
import CertRenewal.Proofs.Events
import CertRenewal.Proofs.Rsa
import CertRenewal.Proofs.SigningRequests

/-
  Private keys stay out of what is told. Two runs of the same calls, in which sources hand out
  different keys and pairs hold different private keys, are set side by side. Main statement:
  `secrecy_run`. Event for event the two runs tell the same, and call for call they end alike:
  with the same decision, with the same error, or with bundles that differ at most in the private
  key and in the certification request.
-/

namespace CertRenewal

open Telemetry Rotation

/-! ## Computations that look alike -/

namespace Telemetry

/-- The same error, or values that are related. -/
inductive EndAlike {ε α : Type} (R : α → α → Prop) : Except ε α → Except ε α → Prop where
  | ok {a b : α} (h : R a b) : EndAlike R (.ok a) (.ok b)
  | error (e : ε) : EndAlike R (.error e) (.error e)

/-- The same events, and an end that is alike. -/
structure Traced.Alike {ε α : Type} (R : α → α → Prop) (x y : Traced ε α) : Prop where
  events : x.events = y.events
  outcome : EndAlike R x.outcome y.outcome

section EndAlike

variable {ε δ α β : Type} {R : α → α → Prop} {S : β → β → Prop} {x y : Except ε α}

theorem EndAlike.refl (h : ∀ a, R a a) (x : Except ε α) : EndAlike R x x :=
  match x with
  | .ok a => .ok (h a)
  | .error e => .error e

theorem EndAlike.map {f : α → β} (h : EndAlike R x y) (hf : ∀ a b, R a b → S (f a) (f b)) :
    EndAlike S (x.map f) (y.map f) := by
  cases h with
  | ok related => exact .ok (hf _ _ related)
  | error e => exact .error e

theorem EndAlike.mapError (h : EndAlike R x y) (f : ε → δ) :
    EndAlike R (x.mapError f) (y.mapError f) := by
  cases h with
  | ok related => exact .ok related
  | error e => exact .error (f e)

end EndAlike

theorem flatMap_events_of_alike {ε α : Type} {R : α → α → Prop} {xs ys : List (Traced ε α)}
    (h : List.Forall₂ (Traced.Alike R) xs ys) :
    xs.flatMap Traced.events = ys.flatMap Traced.events := by
  induction h with
  | nil => rfl
  | cons first rest ih => rw [List.flatMap_cons, List.flatMap_cons, first.events, ih]

end Telemetry

/-! ## Keys -/

namespace Rsa

/-- The key is large enough to sign. -/
def PrivateKey.CanSign (k : PrivateKey) : Prop := 62 ≤ width k.modulus

/-- A key signs every message or none, by its size. -/
theorem PrivateKey.canSign_iff (k : PrivateKey) (message : Bytes) :
    k.CanSign ↔ ∃ signature, k.sign? message = some signature := by
  unfold CanSign sign?
  dsimp only
  rw [padded?_eq]
  by_cases room : 62 ≤ width k.modulus
  · rw [if_pos room]
    exact iff_of_true room ⟨_, rfl⟩
  · rw [if_neg room]
    exact iff_of_false room (fun ⟨_, h⟩ => nomatch h)

/-- A key that can sign makes a request of whatever it is to ask for. -/
theorem PrivateKey.CanSign.exists_sign? {k : PrivateKey} (h : k.CanSign) (info : Pkcs10.Info) :
    ∃ r, info.sign? k = some r := by
  obtain ⟨signature, signed⟩ := (k.canSign_iff info.encode).1 h
  exact ⟨⟨info, signature⟩, Option.bind_eq_some_iff.2 ⟨signature, signed, rfl⟩⟩

/-- Two sources that differ at most in the keys that they hand out, which can sign. -/
inductive KeySource.Alike : KeySource → KeySource → Prop where
  | same (source : KeySource) : Alike source source
  | keys {k l : PrivateKey} (hk : k.CanSign) (hl : l.CanSign) :
      Alike (.ready (some k)) (.ready (some l))

end Rsa

/-- Keys that can sign are refused for the same reasons, which lie in the identity. -/
theorem Builder.certify_alike {k l : Rsa.PrivateKey} (hk : k.CanSign) (hl : l.CanSign)
    (i : Identity) (fullName : Bool) :
    (∃ f, certify (some k) i fullName = .error f ∧ certify (some l) i fullName = .error f) ∨
      ∃ c d, certify (some k) i fullName = .ok c ∧ certify (some l) i fullName = .ok d := by
  unfold certify
  dsimp only
  split
  · exact .inl ⟨_, rfl, rfl⟩
  · split
    · exact .inl ⟨_, rfl, rfl⟩
    · obtain ⟨c, hc⟩ := hk.exists_sign? ⟨i.commonName fullName, k.publicKey, altNames i⟩
      obtain ⟨d, hd⟩ := hl.exists_sign? ⟨i.commonName fullName, l.publicKey, altNames i⟩
      rw [hc, hd]
      exact .inr ⟨c, d, rfl, rfl⟩

/-! ## Signing requests -/

/-- What stands in a request beside the certification request depends on no key. -/
theorem Builder.complete_without_pem (b : Builder) (i : Identity) (fullName : Bool)
    (c : Pkcs10.Request) :
    { b.complete i fullName c with pem := [] } =
      ⟨i.requestName, [], i.commonName fullName, i.dnsNames, i.addresses, b.usages, b.groups,
        b.apiVersion⟩ := rfl

/-- The value with what stands at a path of field names taken out. -/
def Json.erase : List String → Json → Json
  | [], _ => .null
  | name :: path, .object fields =>
    .object (fields.map fun (n, v) => (n, if n = name then erase path v else v))
  | _ :: _, v => v

/-- Where the certification request stands in a manifest. -/
def SigningRequest.requestPath : List String := ["spec", "request"]

theorem SigningRequest.erase_manifest (r : SigningRequest) :
    r.manifest.erase requestPath = { r with pem := [] }.manifest.erase requestPath := by
  simp [manifest, requestPath, Json.erase]

namespace Lifecycle

/-- Two bundles that differ at most in the private key, in the certification request, and in the
place of that request in the manifest. -/
structure Bundle.Alike (b c : Bundle) : Prop where
  fields : { b.request with pem := [] } = { c.request with pem := [] }
  manifest : b.request.manifest.erase SigningRequest.requestPath =
    c.request.manifest.erase SigningRequest.requestPath

theorem Bundle.alike_of_fields {b c : Bundle}
    (h : { b.request with pem := [] } = { c.request with pem := [] }) : b.Alike c where
  fields := h
  manifest := by rw [b.request.erase_manifest, c.request.erase_manifest, h]

theorem Bundle.Alike.refl (b : Bundle) : b.Alike b := ⟨rfl, rfl⟩

/-- The same decision, and bundles that are alike, if there are any. -/
inductive Answer.Alike : Answer → Answer → Prop where
  | decision (d : Decision) : Alike (.decision d) (.decision d)
  | bundle {b c : Bundle} (h : b.Alike c) : Alike (.bundle b) (.bundle c)
  | kept (d : Decision) : Alike (.outcome ⟨d, none⟩) (.outcome ⟨d, none⟩)
  | issued (d : Decision) {b c : Bundle} (h : b.Alike c) :
      Alike (.outcome ⟨d, some b⟩) (.outcome ⟨d, some c⟩)

/-- Two calls that differ at most in the keys that are handed out for them, which can sign, and in
the private key of the pair they are about. -/
inductive Call.Alike : Call → Call → Prop where
  | check {pair other : Option Pair} (now : Present)
      (h : pair.map Pair.certificate = other.map Pair.certificate) :
      Alike (.check pair now) (.check other now)
  | issue {source other : Rsa.KeySource} (i : Identity) (fullName : Option Bool)
      (h : source.Alike other) : Alike (.issue source i fullName) (.issue other i fullName)
  | renew {source otherSource : Rsa.KeySource} {pair other : Option Pair} (i : Identity)
      (now : Present) (force : Bool) (fullName : Option Bool) (keys : source.Alike otherSource)
      (h : pair.map Pair.certificate = other.map Pair.certificate) :
      Alike (.renew source i pair now force fullName)
        (.renew otherSource i other now force fullName)

/-! ## One operation -/

namespace Service

/-- The private key of a pair has no part in a decision. -/
theorem evaluate_of_certificates (p : Policy) {pair other : Option Pair} (now : Present)
    (h : pair.map Pair.certificate = other.map Pair.certificate) :
    p.evaluate pair now = p.evaluate other now := by
  match pair, other with
  | none, none => rfl
  | some pair, some other =>
    have same : pair.certificate = other.certificate := Option.some.inj h
    exact evaluate_congr_pair p now (by rw [same])

theorem check_of_certificates (s : Service) {pair other : Option Pair} (now : Present)
    (h : pair.map Pair.certificate = other.map Pair.certificate) :
    s.check pair now = s.check other now := by
  unfold check
  rw [evaluate_of_certificates s.policy now h]

theorem requestBuilt_complete (b : Builder) (i : Identity) (fullName : Bool)
    (c : Pkcs10.Request) :
    requestBuilt (b.complete i fullName c) =
      .signingRequestBuilt i.requestName (i.commonName fullName) i.dnsNames i.addresses := rfl

/-- Which key is handed out shows in the bundle alone. -/
theorem issue_alike (s : Service) {source other : Rsa.KeySource} (h : source.Alike other)
    (i : Identity) (fullName : Option Bool) :
    (s.issue source i fullName).Alike Bundle.Alike (s.issue other i fullName) := by
  cases h with
  | same => exact ⟨rfl, .refl Bundle.Alike.refl _⟩
  | @keys k l hk hl =>
    by_cases small : s.keySize < Rsa.minKeyBits
    · have refused : ∀ key, Rsa.KeySource.draw (.ready key) s.keySize =
          .error ⟨s.keySize, .tooSmall⟩ := fun _ => if_pos small
      rw [issue_of_no_key s i fullName (refused _), issue_of_no_key s i fullName (refused _)]
      exact ⟨rfl, .error _⟩
    · have drawn : ∀ key, Rsa.KeySource.draw (.ready key) s.keySize = .ok key :=
        fun _ => if_neg small
      rcases Builder.certify_alike hk hl i (fullName.getD s.useFullName) with
        ⟨f, first, second⟩ | ⟨c, d, first, second⟩
      · rw [issue_of_no_request s fullName (drawn _) first,
          issue_of_no_request s fullName (drawn _) second]
        exact ⟨rfl, .error _⟩
      · rw [issue_of_certified s fullName (drawn _) first,
          issue_of_certified s fullName (drawn _) second]
        rw [requestBuilt_complete, requestBuilt_complete]
        refine ⟨rfl, .ok (Bundle.alike_of_fields ?_)⟩
        rw [Builder.complete_without_pem, Builder.complete_without_pem]

/-- One call: what a call tells and how it ends depends on neither kind of key. -/
theorem perform_alike (s : Service) {c d : Call} (h : c.Alike d) :
    (s.perform c).Alike Answer.Alike (s.perform d) := by
  cases h with
  | check now h =>
    rw [perform_check, perform_check, check_of_certificates s now h]
    refine ⟨rfl, ?_⟩
    cases ((s.check _ now).outcome.mapError RenewError.evaluation) with
    | ok d => exact .ok (.decision d)
    | error e => exact .error e
  | issue i fullName h =>
    obtain ⟨events, outcome⟩ := s.issue_alike h i fullName
    rw [perform_issue, perform_issue]
    exact ⟨events, (outcome.mapError RenewError.issue).map fun _ _ related => .bundle related⟩
  | @renew source otherSource pair other i now force fullName keys h =>
    rw [perform_renew, perform_renew]
    have same := evaluate_of_certificates s.policy now h
    cases decided : (s.policy.evaluate pair now).outcome with
    | error e =>
      rw [renew_of_undecided _ _ _ _ decided, renew_of_undecided _ _ _ _ (same ▸ decided)]
      exact ⟨rfl, .error _⟩
    | ok d =>
      have checked := check_of_certificates s now h
      cases go : d.rotate || force with
      | false =>
        rw [renew_of_kept _ _ _ decided go, renew_of_kept _ _ _ (same ▸ decided) go, checked]
        exact ⟨rfl, .ok (.kept d)⟩
      | true =>
        obtain ⟨events, outcome⟩ := s.issue_alike keys i fullName
        rw [renew_of_decided _ _ _ decided go, renew_of_decided _ _ _ (same ▸ decided) go,
          checked, events]
        refine ⟨rfl, ?_⟩
        refine EndAlike.map (R := fun o p => Answer.Alike (.outcome o) (.outcome p)) ?_ ?_
        · exact (outcome.mapError RenewError.issue).map fun _ _ related => .issued d related
        · exact fun _ _ related => related

end Service

/-! ## Runs -/

/-- Two runs of calls to the same services that are alike one by one. -/
def RunsAlike (calls others : List (Service × Call)) : Prop :=
  List.Forall₂ (fun c d => c.1 = d.1 ∧ c.2.Alike d.2) calls others

/-- Runs of the same calls, in which different keys are handed out that are all large enough to
sign, and in which the pairs hold different private keys, tell exactly the same: the same records
with their fields, the same samples with their labels, the same spans with their attributes. Call
by call they end with the same decision, in the same error, or in bundles whose only differences
are the private key, the certification request, and the latter's place in the manifest. -/
theorem secrecy_run {calls others : List (Service × Call)} (h : RunsAlike calls others) :
    eventsOf calls = eventsOf others ∧
      List.Forall₂ (Traced.Alike Answer.Alike) (performAll calls) (performAll others) := by
  have pairwise : List.Forall₂ (Traced.Alike Answer.Alike) (performAll calls)
      (performAll others) := by
    induction h with
    | nil => exact .nil
    | @cons c d calls others first rest ih =>
      obtain ⟨s, c⟩ := c
      obtain ⟨t, d⟩ := d
      obtain ⟨rfl, alike⟩ := first
      exact .cons (s.perform_alike alike) ih
  exact ⟨flatMap_events_of_alike pairwise, pairwise⟩

/-- A key with the primes of the sample and another public exponent. -/
def otherKey : Rsa.PrivateKey :=
  ⟨Rsa.PrivateKey.sampleP, Rsa.PrivateKey.sampleQ,
    Rsa.inverseMod 257 ((Rsa.PrivateKey.sampleP - 1) * (Rsa.PrivateKey.sampleQ - 1)), 257⟩

/-- A check of a pair with some private key, and the issuing of a bundle with another. -/
def keyedRun (stored : Bytes) (k : Rsa.PrivateKey) : List (Service × Call) :=
  [(.standard, .check (some ⟨samplePair.certificate, stored⟩)
      (.named ⟨⟨2026, 1, 1, 0, 0, 0⟩, 0, none⟩)),
    (.standard, .issue (.ready (some k)) Builder.sampleIdentity (some true))]

/-- Two keys with different texts are issued, and nobody who is told can say which was. -/
theorem secrecy_run_keyedRun :
    eventsOf (keyedRun [] .sample) = eventsOf (keyedRun [1] otherKey) ∧
      List.Forall₂ (Traced.Alike Answer.Alike) (performAll (keyedRun [] .sample))
        (performAll (keyedRun [1] otherKey)) ∧
      (∃ b, (Service.standard.issue (.ready (some .sample)) Builder.sampleIdentity
        (some true)).outcome = .ok b ∧ b.privateKey = Rsa.PrivateKey.sample.pem) ∧
      Rsa.PrivateKey.sample.pem ≠ otherKey.pem := by
  have able : Rsa.PrivateKey.CanSign .sample ∧ otherKey.CanSign := by
    unfold Rsa.PrivateKey.CanSign
    decide +kernel
  have alike : RunsAlike (keyedRun [] .sample) (keyedRun [1] otherKey) :=
    .cons ⟨rfl, .check _ rfl⟩ (.cons ⟨rfl, .issue _ _ (.keys able.1 able.2)⟩ .nil)
  obtain ⟨told, ended⟩ := secrecy_run alike
  obtain ⟨c, certified, -⟩ := Builder.exists_certify_sample
  have drawn : Rsa.KeySource.draw (.ready (some .sample)) Service.standard.keySize =
      .ok (some .sample) := rfl
  have issued := Service.issue_of_certified .standard (some true) drawn certified
  exact ⟨told, ended, ⟨_, congrArg Traced.outcome issued, rfl⟩, by decide +kernel⟩

end Lifecycle

end CertRenewal
