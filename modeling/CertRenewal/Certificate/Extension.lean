import CertRenewal.Der.Value

/-
  Extensions: an identifier, whether a reader that does not know it must give up, and a byte
  string that is not looked into. That an extension is critical is written only when it is.
-/

namespace CertRenewal.Certificate

open Der

/-- An extension. -/
structure Extension where
  kind : Oid
  critical : Bool
  value : Bytes
deriving DecidableEq, Repr

namespace Extension

/-- An extension as an element. -/
def toElement (x : Extension) : Element :=
  .sequence (x.kind.toElement :: (if x.critical then [.yes] else []) ++ [.ofBytes x.value])

/-- The extension that an element is. -/
def ofElement? (e : Element) : Option Extension := do
  match ← e.children? .sequence with
  | [kind, value] =>
    let kind ← Oid.ofElement? kind
    let value ← value.bytes?
    some ⟨kind, false, value⟩
  | [kind, critical, value] =>
    let kind ← Oid.ofElement? kind
    let value ← value.bytes?
    if critical = .yes then some ⟨kind, true, value⟩ else none
  | _ => none

/-- What the extension is can be written. -/
def isProper (x : Extension) : Bool := x.kind.isProper

/-- A list of extensions as an element. -/
def listToElement (xs : List Extension) : Element := .sequence (xs.map toElement)

/-- The list of extensions that an element is. -/
def listOfElement? (e : Element) : Option (List Extension) := do
  let es ← e.children? .sequence
  es.mapM ofElement?

end Extension

end CertRenewal.Certificate
