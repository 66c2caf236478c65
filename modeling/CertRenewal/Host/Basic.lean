import CertRenewal.Host.Ip
import CertRenewal.Text.Blank

/-
  Hosts. The host of an API server is given as one text and is classified once: nothing, when it
  is blank; an IP address, when it spells one; a DNS name in every other case.
-/

namespace CertRenewal

/-- A host that is not blank. -/
inductive Host where
  | ip (address : Ip)
  | dns (name : String)
deriving DecidableEq, Repr

/-- The kinds of host a request can be built for. -/
inductive HostKind where
  | ip
  | dns
  | none
deriving DecidableEq, Repr

namespace HostKind

/-- The name of a kind. -/
def label : HostKind → String
  | ip => "ip"
  | dns => "dns"
  | none => "none"

end HostKind

namespace Host

/-- The host that a text names, blanks around it apart. -/
def classify? (s : String) : Option Host :=
  let name := Text.trim s
  if name = "" then Option.none
  else match Ip.ofChars? name.toList with
    | some i => some (ip i)
    | Option.none => some (dns name)

/-- The text of a host. -/
def text : Host → String
  | ip i => i.text
  | dns name => name

/-- The kind of a host that may be missing. -/
def kind : Option Host → HostKind
  | some (ip _) => .ip
  | some (dns _) => .dns
  | Option.none => .none

end Host

end CertRenewal
