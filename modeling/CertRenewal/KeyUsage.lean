import CertRenewal.Text.Quoted

/-
  The key usages that a signer of certificates is asked for, by the names that the certificates
  API has for them.
-/

namespace CertRenewal

/-- What a certified key may be used for. -/
inductive KeyUsage where
  | digitalSignature
  | keyEncipherment
  | serverAuth
  | clientAuth
deriving DecidableEq, Repr

namespace KeyUsage

/-- The name of a usage. -/
def label : KeyUsage → String
  | digitalSignature => "digital signature"
  | keyEncipherment => "key encipherment"
  | serverAuth => "server auth"
  | clientAuth => "client auth"

/-- All usages, in the order in which a request names them when nothing else is said. -/
def all : List KeyUsage := [digitalSignature, keyEncipherment, serverAuth, clientAuth]

/-- A name that no usage has. -/
structure Unknown where
  label : String
deriving DecidableEq, Repr

/-- The wording of the error. -/
def Unknown.message (e : Unknown) : String := Text.quoted e.label ++ " is not a valid KeyUsage"

/-- The usage with a given name. -/
def ofLabel (s : String) : Except Unknown KeyUsage :=
  match all.find? fun u => u.label == s with
  | some u => .ok u
  | none => .error ⟨s⟩

/-- The usages with the given names; the first unknown name is the error. -/
def ofLabels (names : List String) : Except Unknown (List KeyUsage) := names.mapM ofLabel

end KeyUsage

end CertRenewal
