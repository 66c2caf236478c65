import CertRenewal.Identity
import CertRenewal.Rotation.Policy
import CertRenewal.Validation.Value

/-
  The bodies of requests and the checking of them. A body names a certificate pair; the body of a
  renewal names the service too, whose names are trimmed and must have something left. Fields
  that are not named here are passed over.
-/

namespace CertRenewal.Api

open Validation

/-- A certificate and its private key as texts, both of which may be missing. -/
structure PairBody where
  certificate : Option Wide
  privateKey : Option Wide
deriving DecidableEq, Repr

/-- A name with something in it. -/
@[ext] structure Name where
  text : String
  not_blank : Text.isBlankText text = false
deriving Repr

instance : DecidableEq Name := fun a b => decidable_of_iff (a.text = b.text) Name.ext_iff.symm

/-- The body of a renewal. -/
structure RenewalBody where
  pair : PairBody
  service : Name
  namespaceName : Name
  apiServerHost : String
  useFullName : Option Bool
  force : Bool
deriving DecidableEq, Repr

namespace PairBody

/-- The pair of a body; without a certificate there is none. Both texts have to have bytes. -/
def pair (b : PairBody) : Except Unencodable (Option Rotation.Pair) :=
  match b.certificate with
  | none => .ok none
  | some c => do
    let certificate ← c.utf8
    let privateKey ← (b.privateKey.getD "").utf8
    .ok (some ⟨certificate, privateKey⟩)

end PairBody

namespace RenewalBody

/-- The service of a body. -/
def identity (b : RenewalBody) : Identity where
  service := b.service.text
  namespaceName := b.namespaceName.text
  apiServerHost := b.apiServerHost
  service_not_blank := b.service.not_blank
  namespace_not_blank := b.namespaceName.not_blank

end RenewalBody

/-! ## Checking -/

/-- The most characters of a name. -/
def maxNameLength : Nat := 63

/-- The most characters of a host. -/
def maxHostLength : Nat := 253

/-- A name: within bounds as it is given, and with something left when it is trimmed. -/
def name (v : Json) : Except Problem Name := do
  let s ← boundedText 1 maxNameLength v
  if h : Text.isBlankText (Text.trim s) = true then .error .blank
  else .ok ⟨Text.trim s, by simpa using h⟩

/-- A field that has to be there; what is missing is reported with the whole body. -/
def required {α : Type} (body : Json) (field : String) (check : Json → Except Problem α) :
    Checked α :=
  match body.field? field with
  | some v => checkAt ["body", field] check v
  | none => .bad [⟨["body", field], .missing, body⟩]

/-- A field that may be left out. -/
def optional {α : Type} (body : Json) (field : String) (check : Json → Except Problem α)
    (other : α) : Checked α :=
  match body.field? field with
  | some v => checkAt ["body", field] check v
  | none => .good other

/-- The fields of a pair. -/
def pairFields (body : Json) : Checked PairBody :=
  PairBody.mk <$> optional body "certificate_pem" (nullable wideText) none
    <*> optional body "private_key_pem" (nullable wideText) none

/-- The fields of a renewal. -/
def renewalFields (body : Json) : Checked RenewalBody :=
  RenewalBody.mk <$> pairFields body
    <*> required body "service" name
    <*> required body "namespace" name
    <*> optional body "api_server_host" (boundedText 0 maxHostLength) ""
    <*> optional body "use_fqdn_as_common_name" (nullable flag) none
    <*> optional body "force" flag false

/-- The fields of a body that has to be an object and has to be there. -/
def checkBody {α : Type} (fields : Json → Checked α) : Option Json → Checked α
  | none => .bad [⟨["body"], .missing, .null⟩]
  | some (.object l) => fields (.object l)
  | some v => .bad [⟨["body"], .notObject, v⟩]

end CertRenewal.Api
