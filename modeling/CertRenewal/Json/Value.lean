import CertRenewal.Number.Double
import CertRenewal.Text.Wide

/-
  JSON values. Numbers are told apart by how they are written: a number without fraction and
  exponent is an integer of any size, every other one a double, and the three names for values
  that are no numbers count as doubles too. A text in which half of a surrogate pair stands alone
  is a value of its own, and may name a field. The fields of an object keep their order.
-/

namespace CertRenewal

/-- A JSON value. -/
inductive Json where
  | null
  | bool (b : Bool)
  | int (i : Int)
  | real (x : Double)
  | text (s : String)
  | broken (b : Broken)
  | list (items : List Json)
  | object (fields : List (Wide × Json))
deriving Repr

namespace Json

/-- A list of texts. -/
def texts (l : List String) : Json := .list (l.map .text)

/-- An object with ordinary texts for names. -/
def record (fields : List (String × Json)) : Json := .object (fields.map fun f => (f.1, f.2))

/-- A value, or null. -/
def nullable : Option Json → Json
  | some v => v
  | none => .null

/-- A text as a value. -/
def ofWide : Wide → Json
  | .text s => .text s
  | .broken b => .broken b

/-- The fields of an object; every other value has none. -/
def fields : Json → List (Wide × Json)
  | object fields => fields
  | _ => []

/-- The value of a field of an object. -/
def field? (name : String) (v : Json) : Option Json := v.fields.lookup (Wide.text name)

/-- The text that a value is. -/
def text? : Json → Option String
  | text s => some s
  | _ => none

/-- The text that a value is, broken or not. -/
def wide? : Json → Option Wide
  | text s => some (.text s)
  | broken b => some (.broken b)
  | _ => none

mutual

/-- Whether every number in a value is a number. -/
def isFinite : Json → Bool
  | real x => x.isFinite
  | list items => allFinite items
  | object fields => fieldsFinite fields
  | _ => true

/-- Whether every number in a list of values is a number. -/
def allFinite : List Json → Bool
  | [] => true
  | v :: items => isFinite v && allFinite items

/-- Whether every number in the values of some fields is a number. -/
def fieldsFinite : List (Wide × Json) → Bool
  | [] => true
  | (_, v) :: fields => isFinite v && fieldsFinite fields

end

end Json

end CertRenewal
