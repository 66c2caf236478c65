import CertRenewal.Proofs.Hosts
import CertRenewal.Proofs.Manifests
import CertRenewal.Proofs.Outcomes
import CertRenewal.Proofs.Pem
import CertRenewal.Proofs.RequestForms

/-
  What is submitted says what it was built from. A signing request is wrapped three times: in
  DER, in PEM and, inside its manifest, in base64. Main statement: `build_decodes`, whoever
  unwraps a manifest finds the names of the service, its public key and nothing else, and they
  are the ones that the request lists beside its text. What the DER holds is said by the grammar
  of requests, byte for byte, and its reader agrees.
-/

namespace CertRenewal

open Pkcs10

/-! ## Names -/

namespace Identity

/-- The names that a service has in its cluster, shortest first. -/
def clusterNames (i : Identity) : List String :=
  [i.service, i.service ++ "." ++ i.namespaceName, i.service ++ "." ++ i.namespaceName ++ ".svc"]

/-- The DNS names and the addresses that a certificate of the service needs: the names in the
cluster, and the host of the API server, blanks around it apart, in one of the two lists. It is an
address if it spells one, and is missing if it is blank. -/
inductive HasNames (i : Identity) : List String → List Ip → Prop where
  | none (blank : Text.isBlankText i.apiServerHost = true) : HasNames i i.clusterNames []
  | ip {address : Ip} (spelled : address.IsSpelled (Text.trim i.apiServerHost).toList) :
      HasNames i i.clusterNames [address]
  | dns (blank : Text.isBlankText i.apiServerHost = false)
      (other : ∀ a : Ip, ¬ a.IsSpelled (Text.trim i.apiServerHost).toList) :
      HasNames i (i.clusterNames ++ [Text.trim i.apiServerHost]) []

theorem hasNames (i : Identity) : i.HasNames i.dnsNames i.addresses := by
  have shape := Host.classifies i.apiServerHost
  unfold dnsNames addresses host inClusterName
  generalize Host.classify? i.apiServerHost = found at shape
  cases shape with
  | none blank => exact .none blank
  | ip spelled => exact .ip spelled
  | dns blank other => exact .dns blank other

end Identity

/-- The packed bytes of an address: its octets, or two bytes for each of its groups, whatever its
zone. -/
inductive Ip.IsPacked : Ip → Bytes → Prop where
  | v4 (i : Ipv4) : IsPacked (.v4 i) [i.a, i.b, i.c, i.d]
  | v6 {i : Ipv6} {zone : Option String} {b : Bytes} (groups : Ipv6.IsPacked i.groups b) :
      IsPacked (.v6 i zone) b

theorem Ip.isPacked_packed (a : Ip) : a.IsPacked a.packed := by
  cases a with
  | v4 i => exact .v4 i
  | v6 i zone => exact .v6 (Ipv6.isPacked_flatMap i.groups)

/-- The names of a service whose DNS names are ASCII can be written. -/
theorem Builder.isPlain_altNames {i : Identity} (h : i.dnsNames.all AltName.isAscii = true) :
    ∀ n ∈ altNames i, n.IsPlain := by
  intro n hn
  rcases List.mem_append.1 hn with hn | hn
  · obtain ⟨name, hm, rfl⟩ := List.mem_map.1 hn
    exact List.all_eq_true.1 h name hm
  · obtain ⟨address, -, rfl⟩ := List.mem_map.1 hn
    trivial

/-! ## Manifests -/

namespace SigningRequest

/-- The text in a manifest that holds the request. -/
def submitted? (manifest : Json) : Option String := do
  let spec ← manifest.field? "spec"
  let request ← spec.field? "request"
  request.text?

/-- The request of a manifest is its PEM text in base64. -/
theorem submitted?_manifest (r : SigningRequest) :
    submitted? r.manifest = some (String.ofList (Base64.encode r.pem)) := rfl

end SigningRequest

/-! ## Signed requests -/

theorem Pkcs10.Info.sign?_eq_some {info : Info} {k : Rsa.PrivateKey} {c : Request}
    (h : info.sign? k = some c) : ∃ signature, k.sign? info.encode = some signature ∧
      c = ⟨info, signature⟩ := by
  simp only [sign?, Option.bind_eq_bind, Option.bind_eq_some_iff, Option.some.injEq] at h
  obtain ⟨signature, signed, rfl⟩ := h
  exact ⟨signature, signed, rfl⟩

namespace Pkcs10.Request

/-- The label of a request can stand in a line. -/
theorem isLabel_label : Pem.IsLabel label := by decide

theorem length_encode_le (c : Request) : c.encode.length ≤ c.pem.length :=
  Pem.length_le_length_write ⟨label, c.encode⟩

theorem length_pem_le (c : Request) : c.pem.length ≤ 16 * c.encode.length + 296 := by
  have text := Pem.length_write_le ⟨label, c.encode⟩
  have size : label.length = 19 := by decide
  rw [size] at text
  exact text

end Pkcs10.Request

namespace Builder

/-- What is built is the PEM text of a certification request, signed with the key, whose names can
all be written. -/
theorem exists_request {b : Builder} {k : Rsa.PrivateKey} {i : Identity} {fullName : Bool}
    {r : SigningRequest} (built : (b.build (some k) i fullName).outcome = .ok r) :
    ∃ c : Request, r = b.complete i fullName c ∧
      c.info = ⟨i.commonName fullName, k.publicKey, altNames i⟩ ∧
      k.sign? c.info.encode = some c.signature ∧ ∀ n ∈ c.info.altNames, n.IsPlain := by
  obtain ⟨c, certified, rfl⟩ := outcome_build_eq_ok built
  obtain ⟨ascii, -, key, same, signed⟩ := certify_eq_ok certified
  cases same
  obtain ⟨signature, hs, rfl⟩ := Info.sign?_eq_some signed
  exact ⟨_, rfl, rfl, hs, isPlain_altNames ascii⟩

/-- Unwrapping the manifest of a request gives its PEM text; this is one block, whose DER is the
written form of a certification request and of no other. The request holds the common name that was
asked for, the public key, and the names of the identity, first the DNS names and then the packed
addresses that are listed beside the text. The bound is that of DER, which has no length of more
bytes; no text in memory comes near it. -/
theorem build_decodes (b : Builder) (k : Rsa.PrivateKey) (i : Identity) (fullName : Bool)
    (r : SigningRequest) (built : (b.build (some k) i fullName).outcome = .ok r)
    (fits : r.pem.length < Der.lengthLimit) :
    (∃ s, SigningRequest.submitted? r.manifest = some s ∧ Base64.IsBase64Of s.toList r.pem ∧
        Base64.decode? s.toList = some r.pem) ∧
      (∃ (der : Bytes) (c : Request) (packed : List Bytes), der ≠ [] ∧
        Pem.IsTextOf ⟨"CERTIFICATE REQUEST", der⟩ r.pem ∧
        Pem.read? r.pem = some [⟨"CERTIFICATE REQUEST", der⟩] ∧
        c.info = ⟨r.commonName, ⟨k.p * k.q, k.e⟩, r.dnsNames.map .dns ++ packed.map .address⟩ ∧
        List.Forall₂ Ip.IsPacked r.addresses packed ∧
        IsRequest c der ∧ (∀ other, IsRequest other der → other = c) ∧
        Request.decode? der = some c) ∧
      r.commonName =
        (if fullName then i.service ++ "." ++ i.namespaceName ++ ".svc" else i.service) ∧
      i.HasNames r.dnsNames r.addresses := by
  obtain ⟨c, same, info, -, plain⟩ := exists_request built
  have small : c.encode.length < Der.lengthLimit := by
    refine Nat.lt_of_le_of_lt c.length_encode_le ?_
    rwa [same, complete_pem] at fits
  have written : IsRequest c c.encode := (hasOne_isRequest c plain).holds small
  have pem : r.pem = Pem.write ⟨"CERTIFICATE REQUEST", c.encode⟩ := by
    rw [same, complete_pem]
    rfl
  have holds : c.info = ⟨r.commonName, ⟨k.p * k.q, k.e⟩,
      r.dnsNames.map .dns ++ (r.addresses.map Ip.packed).map .address⟩ := by
    rw [info, same, complete_commonName, complete_dnsNames, complete_addresses, List.map_map]
    rfl
  have packed : List.Forall₂ Ip.IsPacked r.addresses (r.addresses.map Ip.packed) :=
    List.forall₂_map_right_iff.2 (List.forall₂_same.2 fun a _ => a.isPacked_packed)
  have names : i.HasNames r.dnsNames r.addresses := by
    rw [same, complete_dnsNames, complete_addresses]
    exact i.hasNames
  refine ⟨⟨_, r.submitted?_manifest, ?_⟩,
    ⟨c.encode, c, r.addresses.map Ip.packed, ?_, ?_, ?_, holds, packed, written, ?_, ?_⟩, ?_, names⟩
  · rw [String.toList_ofList]
    exact ⟨Base64.isBase64Of_encode r.pem, Base64.decode_encode r.pem⟩
  · exact Der.Element.encode_ne_nil _
  · rw [pem]
    exact Pem.isTextOf_write _
  · rw [pem]
    exact Pem.read?_write _ Request.isLabel_label
  · exact fun other h => IsRequest.unique small written h
  · exact Request.decode?_encode c plain small
  · rw [same, complete_commonName]
    rfl

/-- A webhook behind an API server that is reached by its address. -/
def sampleIdentity : Identity := ⟨"webhook", "default", " 10.0.0.1 ", rfl, rfl⟩

theorem exists_certify_sample :
    ∃ c, certify (some .sample) sampleIdentity true = .ok c ∧ c.encode.length < 1000 := by
  have small : ((certify (some .sample) sampleIdentity true).toOption.any
      fun c => c.encode.length < 1000) = true := by decide +kernel
  obtain ⟨c, certified, size⟩ := Except.exists_of_any small
  exact ⟨c, certified, of_decide_eq_true size⟩

/-- The subject, and the names with the address of the API server, in the request of the webhook. -/
theorem build_decodes_sample :
    ∃ r der signature,
      (Builder.standard.build (some .sample) sampleIdentity true).outcome = .ok r ∧
        Pem.read? r.pem = some [⟨"CERTIFICATE REQUEST", der⟩] ∧
        IsRequest ⟨⟨"webhook.default.svc", Rsa.PrivateKey.sample.publicKey,
          [.dns "webhook", .dns "webhook.default", .dns "webhook.default.svc",
            .address [10, 0, 0, 1]]⟩, signature⟩ der ∧
        [0x30, 0x1E, 0x31, 0x1C, 0x30, 0x1A, 0x06, 0x03, 0x55, 0x04, 0x03, 0x0C, 0x13] ++
          Utf8.ofString "webhook.default.svc" <:+: der ∧
        [0x06, 0x03, 0x55, 0x1D, 0x11, 0x04, 0x37, 0x30, 0x35, 0x82, 0x07] ++
          Utf8.ofString "webhook" ++ [0x82, 0x0F] ++ Utf8.ofString "webhook.default" ++
          [0x82, 0x13] ++ Utf8.ofString "webhook.default.svc" ++
          [0x87, 0x04, 10, 0, 0, 1] <:+: der := by
  obtain ⟨c, certified, size⟩ := exists_certify_sample
  have built := outcome_build_of_ok (b := .standard) certified
  have fits : c.pem.length < Der.lengthLimit := by
    have text := c.length_pem_le
    have limit : 20000 < Der.lengthLimit := by decide
    omega
  obtain ⟨-, ⟨der, ⟨info, signature⟩, packed, -, -, block, holds, addresses, written, -⟩, -, -⟩ :=
    build_decodes .standard .sample sampleIdentity true _ built fits
  have listed : sampleIdentity.addresses = [.v4 ⟨10, 0, 0, 1⟩] := by decide
  rw [complete_addresses, listed] at addresses
  obtain rfl : packed = [[10, 0, 0, 1]] := by
    cases addresses with
    | cons first rest =>
      cases rest
      cases first
      rfl
  have names : sampleIdentity.dnsNames.map AltName.dns ++ [[10, 0, 0, 1]].map .address =
      [.dns "webhook", .dns "webhook.default", .dns "webhook.default.svc",
        .address [10, 0, 0, 1]] := by decide
  have common : sampleIdentity.commonName true = "webhook.default.svc" := by decide
  have key : Rsa.PublicKey.mk (Rsa.PrivateKey.sample.p * Rsa.PrivateKey.sample.q)
    Rsa.PrivateKey.sample.e = Rsa.PrivateKey.sample.publicKey := rfl
  rw [complete_commonName, complete_dnsNames, names, common, key] at holds
  change info = _ at holds
  subst holds
  refine ⟨_, der, signature, built, block, written, ?_, ?_⟩
  · have spelled : [0x30, 0x1E, 0x31, 0x1C, 0x30, 0x1A, 0x06, 0x03, 0x55, 0x04, 0x03, 0x0C, 0x13] ++
        Utf8.ofString "webhook.default.svc" =
          (Certificate.Name.ofCommonName "webhook.default.svc").toElement.encode := by
      decide +kernel
    rw [spelled]
    exact written.subject_infix
  · refine List.IsInfix.trans ?_ written.altNames_infix
    dsimp only
    decide +kernel

end Builder

end CertRenewal
