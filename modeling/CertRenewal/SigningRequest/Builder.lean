import CertRenewal.Telemetry.Traced

/-
  Building signing requests. A builder knows whom a request asks to sign and for which usages;
  the subject, the names and the addresses come from the identity of the service. Four things
  can be wrong, and the first of them in this order is reported: a DNS name that is not ASCII, a
  common name that is too long, no key, and a key too short to sign.
-/

namespace CertRenewal

open Telemetry

/-- A builder of requests. -/
structure Builder where
  groups : List String
  usages : List KeyUsage
  apiVersion : String
deriving DecidableEq, Repr

namespace Builder

/-- The builder when nothing else is said. -/
def standard : Builder :=
  ⟨SigningRequest.defaultGroups, KeyUsage.all, SigningRequest.defaultApiVersion⟩

/-- The builder with usages by their names, where what is not given is as usual. -/
def ofNames (groups usages : Option (List String)) (apiVersion : Option String) :
    Except KeyUsage.Unknown Builder := do
  let usages ←
    match usages with
    | some names => KeyUsage.ofLabels names
    | none => .ok standard.usages
  .ok ⟨groups.getD standard.groups, usages, apiVersion.getD standard.apiVersion⟩

/-- The alternative names of a service: its DNS names, then its addresses. -/
def altNames (i : Identity) : List Pkcs10.AltName :=
  i.dnsNames.map .dns ++ i.addresses.map fun a => .address a.packed

/-- The most bytes of a common name. -/
def maxCommonName : Nat := 64

/-- The certification request of a service, signed with a key. -/
def certify (key : Option Rsa.PrivateKey) (i : Identity) (fullName : Bool) :
    Except BuildFault Pkcs10.Request :=
  let commonName := i.commonName fullName
  let length := (Utf8.ofString commonName).length
  if !i.dnsNames.all Pkcs10.AltName.isAscii then .error .nonAsciiName
  else if length = 0 ∨ maxCommonName < length then .error (.commonNameLength length)
  else
    match key with
    | none => .error .noKey
    | some k =>
      match Pkcs10.Info.sign? ⟨commonName, k.publicKey, altNames i⟩ k with
      | none => .error .keyTooShort
      | some r => .ok r

/-- The request of a service with all that is submitted along with it. -/
def complete (b : Builder) (i : Identity) (fullName : Bool) (r : Pkcs10.Request) :
    SigningRequest where
  name := i.requestName
  pem := r.pem
  commonName := i.commonName fullName
  dnsNames := i.dnsNames
  addresses := i.addresses
  usages := b.usages
  groups := b.groups
  apiVersion := b.apiVersion

/-- What a span tells of a request before it is built. -/
def attributes (i : Identity) (fullName : Bool) : List Attribute :=
  [("service", .text i.service), ("namespace", .text i.namespaceName),
    ("common_name", .text (i.commonName fullName)),
    ("host_kind", .text (Host.kind i.host).label)]

/-- The request of a service, told to an observer. -/
def build (b : Builder) (key : Option Rsa.PrivateKey) (i : Identity) (fullName : Bool) :
    Traced BuildFailure SigningRequest :=
  Traced.inSpan .build (attributes i fullName) (fun _ => []) do
    let r ← Traced.ofExcept ((certify key i fullName).mapError (BuildFailure.mk i.inClusterName))
    Traced.count (.requestBuilt (Host.kind i.host))
    pure (b.complete i fullName r)

end Builder

end CertRenewal
