import CertRenewal.Der.Value

/-
  Distinguished names: a sequence of sets of attributes. Name and sets may be empty, but the
  attributes of a set stand in the order of their bytes. Of the values only three string types
  are looked into; any other element is taken as it is.
-/

namespace CertRenewal.Certificate

open Der

/-- One attribute of a name: what it is, and its value. -/
structure Attribute where
  kind : Oid
  value : Element
deriving DecidableEq, Repr

namespace Attribute

/-- The attribute that holds a common name. -/
def commonName : Oid := .ofArcs [2, 5, 4, 3]

/-- The alphabet of printable strings. -/
def isPrintableByte (x : UInt8) : Bool :=
  let n := x.toNat
  (65 ≤ n && n ≤ 90) || (97 ≤ n && n ≤ 122) || (48 ≤ n && n ≤ 57) || n == 32 ||
    (39 ≤ n && n ≤ 41) || (43 ≤ n && n ≤ 47) || n == 58 || n == 61 || n == 63

/-- Pairs of bytes that are no halves of surrogate pairs. -/
def isBmpText : Bytes → Bool
  | [] => true
  | [_] => false
  | hi :: _ :: rest => !(0xD8 ≤ hi && hi ≤ 0xDF) && isBmpText rest

/-- Groups of four bytes that are code points, surrogates apart. -/
def isUniversalText : Bytes → Bool
  | [] => true
  | a :: b :: c :: d :: rest =>
    (Bytes.toNat [a, b, c, d]).isValidChar && isUniversalText rest
  | _ => false

/-- Whether the value of an attribute is one its tag allows. -/
def isProperValue (e : Element) : Bool :=
  if e.tag = .printableString then e.contents.all isPrintableByte
  else if e.tag = .bmpString then isBmpText e.contents
  else if e.tag = .universalString then isUniversalText e.contents
  else true

/-- What the attribute is can be written, and so can its value, which its tag allows. -/
def isProper (a : Attribute) : Bool :=
  a.kind.isProper && a.value.isProper && isProperValue a.value

/-- An attribute as an element. -/
def toElement (a : Attribute) : Element := .sequence [a.kind.toElement, a.value]

/-- The attribute that an element is. -/
def ofElement? (e : Element) : Option Attribute := do
  match ← e.children? .sequence with
  | [kind, value] =>
    let kind ← Oid.ofElement? kind
    if isProperValue value then some ⟨kind, value⟩ else none
  | _ => none

end Attribute

/-- A set of attributes. -/
abbrev RelativeName := List Attribute

/-- A sequence of sets of attributes. -/
abbrev Name := List RelativeName

/-- Whether elements stand in the order of their bytes; equal ones may stand side by side. -/
def inByteOrder : List Element → Bool
  | e :: f :: es => Bytes.le e.encode f.encode && inByteOrder (f :: es)
  | _ => true

namespace RelativeName

/-- A set of attributes as an element. -/
def toElement (r : RelativeName) : Element := .node .set (r.map Attribute.toElement)

/-- The set of attributes that an element is. -/
def ofElement? (e : Element) : Option RelativeName := do
  let es ← e.children? .set
  if inByteOrder es then es.mapM Attribute.ofElement? else none

/-- The set is in order and its attributes are proper. -/
def isProper (r : RelativeName) : Bool :=
  inByteOrder (r.map Attribute.toElement) && r.all Attribute.isProper

end RelativeName

namespace Name

/-- The name that consists of a common name. -/
def ofCommonName (s : String) : Name := [[⟨Attribute.commonName, .ofText s⟩]]

/-- The common name that a name consists of. -/
def commonName? : Name → Option String
  | [[a]] => if a.kind = Attribute.commonName then a.value.text? else none
  | _ => none

/-- A name as an element. -/
def toElement (n : Name) : Element := .sequence (n.map RelativeName.toElement)

/-- The name that an element is. -/
def ofElement? (e : Element) : Option Name := do
  let es ← e.children? .sequence
  es.mapM RelativeName.ofElement?

/-- All sets of the name are proper. -/
def isProper (n : Name) : Bool := n.all RelativeName.isProper

end Name

end CertRenewal.Certificate
