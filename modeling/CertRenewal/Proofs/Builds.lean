import CertRenewal.Proofs.Events
import CertRenewal.Proofs.Hosts
import CertRenewal.Proofs.Keys
import CertRenewal.Proofs.Secrecy
import CertRenewal.Telemetry.Report

/-
  How the building of a request ends. What a request has to meet is a list, each item with the
  complaint that stands for it; a key that is there is taken to be one that can sign. Main
  statement: `Builder.build_outcomes`. A request is built exactly if all of the list is met, and is
  then counted, once, under the label that goes with its host; otherwise the first item that is not
  met is complained of, and none is counted.
-/

namespace CertRenewal

open Telemetry

/-! ## Requirements -/

/-- Something that has to hold, and what is said when it does not. -/
structure Requirement where
  holds : Prop
  complaint : String

namespace Requirement

/-- What is said of the first requirement in a list that does not hold. -/
inductive FirstUnmet : List Requirement → String → Prop where
  | here {r : Requirement} {rs : List Requirement} (unmet : ¬ r.holds) :
      FirstUnmet (r :: rs) r.complaint
  | later {r : Requirement} {rs : List Requirement} {complaint : String} (met : r.holds)
      (rest : FirstUnmet rs complaint) : FirstUnmet (r :: rs) complaint

variable {rs : List Requirement} {complaint other : String}

theorem FirstUnmet.unique (h : FirstUnmet rs complaint) (h' : FirstUnmet rs other) :
    complaint = other := by
  induction h with
  | here unmet =>
    cases h' with
    | here => rfl
    | later met => exact absurd met unmet
  | later met _ ih =>
    cases h' with
    | here unmet => exact absurd met unmet
    | later _ rest => exact ih rest

theorem FirstUnmet.not_forall (h : FirstUnmet rs complaint) : ¬ ∀ r ∈ rs, r.holds := by
  induction h with
  | here unmet =>
    intro all
    exact unmet (all _ List.mem_cons_self)
  | later _ _ ih =>
    intro all
    apply ih
    intro r mem
    exact all r (List.mem_cons_of_mem _ mem)

end Requirement

/-! ## Names -/

namespace Identity

/-- The DNS names that a request for the service holds are ASCII: the three names in the cluster,
and the host of the API server, unless this is the literal of an address. -/
structure HasAsciiNames (i : Identity) : Prop where
  cluster : ∀ name ∈ [i.service, i.service ++ "." ++ i.namespaceName,
    i.service ++ "." ++ i.namespaceName ++ ".svc"], ∀ c ∈ name.toList, c.toNat < 128
  host : (∀ a : Ip, ¬ a.IsSpelled (Text.trim i.apiServerHost).toList) →
    ∀ c ∈ (Text.trim i.apiServerHost).toList, c.toNat < 128

theorem all_isAscii_dnsNames_iff (i : Identity) :
    i.dnsNames.all Pkcs10.AltName.isAscii = true ↔ i.HasAsciiNames := by
  have lists : ∀ l : List String, l.all Pkcs10.AltName.isAscii = true ↔
      ∀ name ∈ l, ∀ c ∈ name.toList, c.toNat < 128 := by
    intro l
    simp only [List.all_eq_true, Pkcs10.AltName.isAscii_iff]
  have shape := Host.classifies i.apiServerHost
  unfold dnsNames host inClusterName
  rw [List.all_append, Bool.and_eq_true, lists, lists]
  generalize Host.classify? i.apiServerHost = found at shape
  cases shape with
  | none blank =>
    refine ⟨fun h => ⟨h.1, fun _ => ?_⟩, fun h => ⟨h.cluster, nofun⟩⟩
    rw [Text.trim_eq_empty_iff.2 blank]
    exact nofun
  | ip spelled =>
    exact ⟨fun h => ⟨h.1, fun other => absurd spelled (other _)⟩, fun h => ⟨h.cluster, nofun⟩⟩
  | dns _ other =>
    dsimp only
    rw [List.forall_mem_singleton]
    exact ⟨fun h => ⟨h.1, fun _ => h.2⟩, fun h => ⟨h.cluster, h.host other⟩⟩

theorem commonName_ne_empty (i : Identity) (fullName : Bool) : i.commonName fullName ≠ "" := by
  have service : i.service ≠ "" := by
    intro empty
    have named := i.service_not_blank
    rw [empty] at named
    cases named
  intro empty
  have size := String.utf8ByteSize_eq_zero_iff.2 empty
  have named := mt String.utf8ByteSize_eq_zero_iff.1 service
  unfold commonName inClusterName at size
  split at size
  · simp only [String.utf8ByteSize_append] at size
    omega
  · exact named size

end Identity

/-- What a request is counted under: that the host of the API server is missing, if it is blank,
that it is an address, if it spells one, blanks around it apart, and that it is a name otherwise. -/
inductive Host.IsLabel (s : String) : String → Prop where
  | none (blank : Text.isBlankText s = true) : IsLabel s "none"
  | ip {a : Ip} (spelled : a.IsSpelled (Text.trim s).toList) : IsLabel s "ip"
  | dns (blank : Text.isBlankText s = false)
      (other : ∀ a : Ip, ¬ a.IsSpelled (Text.trim s).toList) : IsLabel s "dns"

theorem Host.isLabel_kind (s : String) : IsLabel s (kind (classify? s)).label := by
  have shape := classifies s
  generalize classify? s = found at shape
  cases shape with
  | none blank => exact .none blank
  | ip spelled => exact .ip spelled
  | dns blank other => exact .dns blank other

/-! ## Requests -/

namespace Builder

/-- What a request has to meet, in the order in which it is looked at. -/
def requirements (key : Option Rsa.PrivateKey) (i : Identity) (fullName : Bool) : List Requirement :=
  let bytes := (i.commonName fullName).utf8ByteSize
  [⟨i.HasAsciiNames, "DNSName values should be passed as an A-label string. This means unicode " ++
      "characters should be encoded via a library like idna."⟩,
    ⟨bytes ≤ 64, "Attribute's length must be >= 1 and <= 64, but it was " ++ toString bytes⟩,
    ⟨key ≠ none, "Key must be an rsa, dsa, ec, ed25519, ed448, ml-dsa-44, ml-dsa-65, or " ++
      "ml-dsa-87 private key."⟩]

variable {key : Option Rsa.PrivateKey} {i : Identity} {fullName : Bool}

/-- The ways in which certifying ends. -/
inductive Certifies (key : Option Rsa.PrivateKey) (i : Identity) (fullName : Bool) :
    Except BuildFault Pkcs10.Request → Prop where
  | met (h : ∀ r ∈ requirements key i fullName, r.holds) (c : Pkcs10.Request) :
      Certifies key i fullName (.ok c)
  | unmet {f : BuildFault}
      (h : Requirement.FirstUnmet (requirements key i fullName) f.message) :
      Certifies key i fullName (.error f)

theorem certifies (hk : ∀ k ∈ key, k.CanSign) :
    Certifies key i fullName (certify key i fullName) := by
  have positive := mt String.utf8ByteSize_eq_zero_iff.1 (i.commonName_ne_empty fullName)
  unfold certify maxCommonName
  dsimp only
  rw [Utf8.length_ofString]
  by_cases ascii : i.dnsNames.all Pkcs10.AltName.isAscii = true
  · have names := i.all_isAscii_dnsNames_iff.1 ascii
    rw [ascii, if_neg (by decide)]
    by_cases long : 64 < (i.commonName fullName).utf8ByteSize
    · rw [if_pos (.inr long)]
      apply Certifies.unmet
      unfold BuildFault.message
      dsimp only
      rw [Decimal.ofList_digits]
      exact .later names (.here (Nat.not_le.2 long))
    · rw [if_neg (by omega)]
      cases key with
      | none => exact .unmet (.later names (.later (Nat.not_lt.1 long) (.here fun h => h rfl)))
      | some k =>
        obtain ⟨c, signed⟩ :=
          (hk k rfl).exists_sign? ⟨i.commonName fullName, k.publicKey, altNames i⟩
        dsimp only
        rw [signed]
        refine .met ?_ c
        simp only [requirements, List.forall_mem_cons]
        exact ⟨names, Nat.not_lt.1 long, nofun, nofun⟩
  · rw [Bool.not_eq_true] at ascii
    rw [ascii, if_pos (by decide)]
    exact .unmet (.here fun names => absurd (i.all_isAscii_dnsNames_iff.2 names) (by simp [ascii]))

/-- A request is built exactly if all requirements are met. Otherwise building fails, with the
complaint about the first that is not. A request that is built is counted once, under the label of
its host, and nothing is counted for one that is not. -/
theorem build_outcomes (b : Builder) (key : Option Rsa.PrivateKey) (i : Identity) (fullName : Bool)
    (hk : ∀ k ∈ key, k.CanSign) :
    ((∃ r, (b.build key i fullName).outcome = .ok r) ↔
        ∀ r ∈ requirements key i fullName, r.holds) ∧
      (∀ message : String,
        (∃ f, (b.build key i fullName).outcome = .error f ∧ f.message = message) ↔
          ∃ complaint, Requirement.FirstUnmet (requirements key i fullName) complaint ∧
            message = "Failed to build signing request for " ++
              (i.service ++ "." ++ i.namespaceName ++ ".svc") ++ ": " ++ complaint) ∧
      ∃ label, Host.IsLabel i.apiServerHost label ∧
        ((samples (b.build key i fullName).events).map fun s => (s.instrument, s.labels?)) =
          match (b.build key i fullName).outcome with
          | .ok _ => [("webhook_tls_signing_requests_built_total",
              some [("host_kind", .text label)])]
          | .error _ => [] := by
  have shape : Certifies key i fullName (certify key i fullName) := certifies hk
  cases h : certify key i fullName with
  | ok c =>
    rw [h] at shape
    cases shape with
    | met all =>
      rw [Lifecycle.Service.build_of_certified b h]
      refine ⟨iff_of_true ⟨_, rfl⟩ all, fun message => iff_of_false ?_ ?_,
        _, Host.isLabel_kind i.apiServerHost, rfl⟩
      · rintro ⟨f, failed, -⟩
        cases failed
      · rintro ⟨complaint, first, -⟩
        exact first.not_forall all
  | error f =>
    rw [h] at shape
    cases shape with
    | unmet first =>
      rw [Lifecycle.Service.build_of_refused b h]
      refine ⟨iff_of_false ?_ first.not_forall, fun message => ?_,
        _, Host.isLabel_kind i.apiServerHost, rfl⟩
      · rintro ⟨r, built⟩
        cases built
      · constructor
        · rintro ⟨failure, failed, rfl⟩
          cases failed
          exact ⟨_, first, rfl⟩
        · rintro ⟨complaint, other, rfl⟩
          rw [other.unique first]
          exact ⟨_, rfl, rfl⟩

/-- A service whose full name does not fit into a common name. Its API server is reached by an
address, whose zone is not ASCII. -/
def longIdentity : Identity :=
  ⟨"mutating-admission-webhook-controller", "cluster-administration-system", "fe80::1%é", rfl, rfl⟩

theorem hasAsciiNames_longIdentity : longIdentity.HasAsciiNames :=
  longIdentity.all_isAscii_dnsNames_iff.1 (by decide)

/-- Under its short name the request is counted as one for an address; its full name is too long. -/
theorem build_outcomes_longIdentity :
    (∃ r, (standard.build (some .sample) longIdentity false).outcome = .ok r) ∧
      (samples (standard.build (some .sample) longIdentity false).events).map
          (fun s => (s.instrument, s.labels?)) =
        [("webhook_tls_signing_requests_built_total", some [("host_kind", .text "ip")])] ∧
      ∃ f, (standard.build (some .sample) longIdentity true).outcome = .error f ∧
        f.message = "Failed to build signing request for " ++
          "mutating-admission-webhook-controller.cluster-administration-system.svc: " ++
          "Attribute's length must be >= 1 and <= 64, but it was 71" := by
  have signs : ∀ k ∈ some Rsa.PrivateKey.sample, k.CanSign := by
    intro k hk
    obtain rfl := Option.some.inj hk
    unfold Rsa.PrivateKey.CanSign
    decide +kernel
  obtain ⟨built_iff, -, label, isLabel, counted⟩ :=
    build_outcomes standard (some .sample) longIdentity false signs
  obtain ⟨r, built⟩ := built_iff.2 (by
    simp only [requirements, List.forall_mem_cons]
    exact ⟨hasAsciiNames_longIdentity, by decide, nofun, nofun⟩)
  rw [built] at counted
  have spelled : (Ip.v6 ⟨[0xFE80, 0, 0, 0, 0, 0, 0, 1], rfl⟩ (some "é")).IsSpelled
      (Text.trim longIdentity.apiServerHost).toList :=
    Ip.ofChars?_eq_some_iff.1 (by decide)
  refine ⟨⟨r, built⟩, ?_,
    ((build_outcomes standard _ longIdentity true signs).2.1 _).2 ⟨_, .later ?_ (.here ?_), ?_⟩⟩
  · cases isLabel with
    | none blank => cases blank
    | ip => exact counted
    | dns _ other => exact absurd spelled (other _)
  · exact hasAsciiNames_longIdentity
  · decide
  · decide +kernel

end Builder

end CertRenewal
