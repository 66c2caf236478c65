import CertRenewal.Certificate.Extension

/-
  Alternative names of a subject: DNS names, which are written in ASCII, and packed addresses.
  A request carries its list of them in one extension.
-/

namespace CertRenewal.Pkcs10

open Der

/-- An alternative name. -/
inductive AltName where
  | dns (name : String)
  | address (packed : Bytes)
deriving DecidableEq, Repr

namespace AltName

/-- The tags of the two kinds of name. -/
def dnsTag : Tag := .context false 2
def addressTag : Tag := .context false 7

/-- Whether a text has ASCII characters only. -/
def isAscii (s : String) : Bool := s.toList.all fun c => c.toNat < 128

/-- A name as an element. -/
def toElement : AltName → Element
  | dns name => ⟨dnsTag, Utf8.ofString name⟩
  | address packed => ⟨addressTag, packed⟩

/-- The name that an element is. -/
def ofElement? (e : Element) : Option AltName :=
  if e.tag = dnsTag then do
    let name ← Utf8.toString? e.contents
    if isAscii name then some (dns name) else none
  else if e.tag = addressTag then some (address e.contents)
  else none

/-- The extension that holds alternative names. -/
def kind : Oid := .ofArcs [2, 5, 29, 17]

/-- A list of names as an extension that a reader may pass over. -/
def toExtension (names : List AltName) : Certificate.Extension :=
  ⟨kind, false, (Element.sequence (names.map toElement)).encode⟩

/-- The list of names that an extension is. -/
def ofExtension? (x : Certificate.Extension) : Option (List AltName) := do
  let e ← readOne? x.value
  let es ← e.children? .sequence
  if x.kind = kind ∧ x.critical = false then es.mapM ofElement? else none

end AltName

end CertRenewal.Pkcs10
