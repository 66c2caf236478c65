import CertRenewal.Proofs.Blanks
import CertRenewal.Proofs.Literals
import CertRenewal.SigningRequest.Builder

/-
  What the host of an API server is taken for. Main statement: `Host.classify?_literals`. A host is
  an address exactly when, blanks around it apart, it is a literal of the grammar; it is then the
  address that the literal spells, however it is spelled, and goes into a request as the packed
  bytes of that address and as no DNS name. Every other host that is not blank is a DNS name.
-/

namespace CertRenewal

/-! ## Packed bytes -/

/-- Groups of sixteen bits as bytes, two for each of them, the more significant one first. -/
inductive Ipv6.IsPacked : List UInt16 → Bytes → Prop where
  | nil : IsPacked [] []
  | cons {g : UInt16} {gs : List UInt16} {high low : UInt8} {b : Bytes}
      (first : g.toNat = high.toNat * 256 + low.toNat) (rest : IsPacked gs b) :
      IsPacked (g :: gs) (high :: low :: b)

theorem Ipv6.isPacked_flatMap (gs : List UInt16) :
    IsPacked gs (gs.flatMap fun g => [UInt8.ofNat (g.toNat / 256), UInt8.ofNat (g.toNat % 256)]) := by
  induction gs with
  | nil => exact .nil
  | cons g gs ih =>
    have bound := g.toNat_lt
    refine .cons ?_ ih
    rw [UInt8.toNat_ofNat', UInt8.toNat_ofNat', Nat.mod_eq_of_lt (by omega),
      Nat.mod_eq_of_lt (by omega)]
    omega

/-! ## Hosts -/

namespace Host

variable {s name : String}

theorem classify?_eq_none_iff : classify? s = none ↔ Text.isBlankText s = true := by
  rw [← Text.trim_eq_empty_iff]
  unfold classify?
  dsimp only
  constructor
  · intro h
    split at h
    · assumption
    · split at h
      · cases h
      · cases h
  · intro h
    rw [if_pos h]

/-- Only a text that is not blank is a literal. -/
theorem isBlankText_of_isSpelled {i : Ip} (h : i.IsSpelled (Text.trim s).toList) :
    Text.isBlankText s = false := by
  rw [← Bool.not_eq_true, ← Text.trim_eq_empty_iff]
  intro empty
  have read := Ip.ofChars?_eq_some_iff.2 h
  rw [empty] at read
  have nothing : Ip.ofChars? "".toList = none := by decide
  rw [nothing] at read
  cases read

theorem classify?_of_isSpelled {i : Ip} (h : i.IsSpelled (Text.trim s).toList) :
    classify? s = some (ip i) := by
  have something : Text.trim s ≠ "" := by
    rw [Ne, Text.trim_eq_empty_iff, isBlankText_of_isSpelled h]
    decide
  unfold classify?
  dsimp only
  rw [if_neg something, Ip.ofChars?_eq_some_iff.2 h]

theorem classify?_of_not_isSpelled (blank : Text.isBlankText s = false)
    (h : ∀ i : Ip, ¬ i.IsSpelled (Text.trim s).toList) : classify? s = some (dns (Text.trim s)) := by
  have something : Text.trim s ≠ "" := by
    rw [Ne, Text.trim_eq_empty_iff, blank]
    decide
  have unread : Ip.ofChars? (Text.trim s).toList = none := by
    rw [Option.eq_none_iff_forall_ne_some]
    intro i read
    exact h i (Ip.ofChars?_eq_some_iff.1 read)
  unfold classify?
  dsimp only
  rw [if_neg something, unread]

/-- The ways in which a text is classified. -/
inductive Classifies (s : String) : Option Host → Prop where
  | none (blank : Text.isBlankText s = true) : Classifies s Option.none
  | ip {i : Ip} (h : i.IsSpelled (Text.trim s).toList) : Classifies s (some (ip i))
  | dns (blank : Text.isBlankText s = false) (h : ∀ i : Ip, ¬ i.IsSpelled (Text.trim s).toList) :
      Classifies s (some (dns (Text.trim s)))

theorem classifies (s : String) : Classifies s (classify? s) := by
  cases blank : Text.isBlankText s with
  | true =>
    rw [classify?_eq_none_iff.2 blank]
    exact .none blank
  | false =>
    by_cases spelled : ∃ i : Ip, i.IsSpelled (Text.trim s).toList
    · obtain ⟨i, h⟩ := spelled
      rw [classify?_of_isSpelled h]
      exact .ip h
    · rw [classify?_of_not_isSpelled blank (not_exists.1 spelled)]
      exact .dns blank (not_exists.1 spelled)

/-- A host is an address when it spells this address. -/
theorem classify?_eq_ip_iff {i : Ip} :
    classify? s = some (ip i) ↔ i.IsSpelled (Text.trim s).toList := by
  refine ⟨fun h => ?_, classify?_of_isSpelled⟩
  have shape := classifies s
  rw [h] at shape
  cases shape with
  | ip spelled => exact spelled

/-- A host is a DNS name when it is not blank and spells no address. -/
theorem classify?_eq_dns_iff : classify? s = some (dns name) ↔
    Text.isBlankText s = false ∧ name = Text.trim s ∧ ∀ i : Ip, ¬ i.IsSpelled name.toList := by
  constructor
  · intro h
    have shape := classifies s
    rw [h] at shape
    cases shape with
    | dns blank other => exact ⟨blank, rfl, other⟩
  · rintro ⟨blank, rfl, h⟩
    exact classify?_of_not_isSpelled blank h

end Host

/-! ## Names in a request -/

/-- The names of a service whose API server is reached by an address: three DNS names in the
cluster, and the bytes of the address. -/
theorem Builder.altNames_of_ip {e : Identity} {i : Ip} (h : Host.classify? e.apiServerHost = some (.ip i)) :
    altNames e = [.dns e.service, .dns (e.service ++ "." ++ e.namespaceName),
      .dns (e.service ++ "." ++ e.namespaceName ++ ".svc"), .address i.packed] := by
  unfold altNames Identity.dnsNames Identity.addresses Identity.host
  rw [h]
  rfl

/-- A host is an address exactly if it is a literal of the grammar, blanks around it apart, and then
the one that is spelled there; any other host that is not blank is a DNS name. The packed bytes are
the octets or the groups of the address, whatever its zone. So all spellings of an address come to
the same bytes in a request, and to no DNS name. -/
theorem Host.classify?_literals :
    (∀ (s : String) (i : Ip), classify? s = some (ip i) ↔ i.IsSpelled (Text.trim s).toList) ∧
      (∀ s name : String, classify? s = some (dns name) ↔
        Text.isBlankText s = false ∧ name = Text.trim s ∧ ∀ i : Ip, ¬ i.IsSpelled name.toList) ∧
      (∀ i : Ipv4, (Ip.v4 i).packed = [i.a, i.b, i.c, i.d]) ∧
      (∀ (i : Ipv6) (zone : Option String), Ipv6.IsPacked i.groups (Ip.v6 i zone).packed) ∧
      ∀ (e : Identity) (i : Ip), i.IsSpelled (Text.trim e.apiServerHost).toList →
        e.addresses = [i] ∧
          Builder.altNames e = [.dns e.service, .dns (e.service ++ "." ++ e.namespaceName),
            .dns (e.service ++ "." ++ e.namespaceName ++ ".svc"), .address i.packed] := by
  refine ⟨fun s i => classify?_eq_ip_iff, fun s name => classify?_eq_dns_iff, fun i => rfl,
    fun i zone => Ipv6.isPacked_flatMap i.groups, fun e i spelled => ?_⟩
  have host := classify?_eq_ip_iff.2 spelled
  refine ⟨?_, Builder.altNames_of_ip host⟩
  unfold Identity.addresses Identity.host
  rw [host]

/-- A service behind an address in capitals, with leading zeros, a gap, a dotted end and a zone. -/
def spelledIdentity : Identity :=
  ⟨"hook", "edge", "\t2001:0DB8::C:192.0.2.33%eth 0 ", rfl, rfl⟩

/-- The address of this service. -/
def spelledAddress : Ipv6 := ⟨[0x2001, 0xDB8, 0, 0, 0, 0xC, 0xC000, 0x221], rfl⟩

theorem Host.classify?_literals_spelledIdentity :
    (Ip.v6 spelledAddress (some "eth 0")).IsSpelled
        (Text.trim spelledIdentity.apiServerHost).toList ∧
      Builder.altNames spelledIdentity =
        [.dns "hook", .dns "hook.edge", .dns "hook.edge.svc",
          .address [0x20, 1, 0xD, 0xB8, 0, 0, 0, 0, 0, 0, 0, 0xC, 0xC0, 0, 2, 0x21]] := by
  have spelled : (Ip.v6 spelledAddress (some "eth 0")).IsSpelled
      (Text.trim spelledIdentity.apiServerHost).toList :=
    Ip.ofChars?_eq_some_iff.1 (by decide)
  exact ⟨spelled, (classify?_literals.2.2.2.2 spelledIdentity _ spelled).2⟩

end CertRenewal
