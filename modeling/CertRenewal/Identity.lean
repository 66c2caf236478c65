import CertRenewal.Host.Basic

/-
  The service that a serving certificate is issued for, by its name and namespace inside the
  cluster and, if it is reached from outside through an API server, that server's host. Neither
  name may be blank, which is part of the type; beyond that they are kept as they are given.
-/

namespace CertRenewal

/-- A service in a cluster. -/
structure Identity where
  service : String
  namespaceName : String
  apiServerHost : String
  service_not_blank : Text.isBlankText service = false
  namespace_not_blank : Text.isBlankText namespaceName = false
deriving DecidableEq, Repr

/-- Why a service cannot be named. -/
inductive IdentityError where
  | blankService
  | blankNamespace
deriving DecidableEq, Repr

namespace IdentityError

/-- The wording of an error. -/
def message : IdentityError → String
  | blankService => "service must not be empty"
  | blankNamespace => "namespace must not be empty"

end IdentityError

namespace Identity

/-- The identity with the given names; of two blank names the service is reported. -/
def make (service namespaceName apiServerHost : String) : Except IdentityError Identity :=
  if hs : Text.isBlankText service = true then .error .blankService
  else if hn : Text.isBlankText namespaceName = true then .error .blankNamespace
  else .ok ⟨service, namespaceName, apiServerHost, by simpa using hs, by simpa using hn⟩

/-- The name that clients inside the cluster use. -/
def inClusterName (i : Identity) : String := i.service ++ "." ++ i.namespaceName ++ ".svc"

/-- The name under which a signing request is submitted. -/
def requestName (i : Identity) : String := i.service ++ "." ++ i.namespaceName ++ ".cert-request"

/-- The host of the API server. -/
def host (i : Identity) : Option Host := Host.classify? i.apiServerHost

/-- The DNS names a certificate is to hold: the three names in the cluster, shortest first, and
the API server when it has a DNS name. -/
def dnsNames (i : Identity) : List String :=
  [i.service, i.service ++ "." ++ i.namespaceName, i.inClusterName] ++
    match i.host with
    | some (.dns name) => [name]
    | _ => []

/-- The addresses a certificate is to hold: that of the API server, when it is one. -/
def addresses (i : Identity) : List Ip :=
  match i.host with
  | some (.ip address) => [address]
  | _ => []

/-- The common name of a certificate: the service, or on demand its full name. -/
def commonName (i : Identity) (fullName : Bool) : String :=
  if fullName then i.inClusterName else i.service

end Identity

end CertRenewal
