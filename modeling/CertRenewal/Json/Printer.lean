import CertRenewal.Json.Value
import CertRenewal.Number.Shortest

/-
  The text of a JSON value, on one line. It is written in ASCII only, where every other character
  and every half that stands alone is an escape by UTF-16 units; or else as it goes over the wire,
  with every character as it is but for the few that cannot stand in a text. Only a text of the
  second kind may be one that has no bytes.
-/

namespace CertRenewal.Json

/-! ## Texts -/

/-- The escape of a character that has a short one. -/
def shortEscape? (c : Char) : Option (List Char) :=
  if c = '"' ∨ c = '\\' then some ['\\', c]
  else if c = '\n' then some ['\\', 'n']
  else if c = '\r' then some ['\\', 'r']
  else if c = '\t' then some ['\\', 't']
  else if c.toNat = 8 then some ['\\', 'b']
  else if c.toNat = 12 then some ['\\', 'f']
  else none

/-- One character of a text in ASCII. -/
def escape (c : Char) : List Char :=
  let n := c.toNat
  match shortEscape? c with
  | some short => short
  | none =>
    if 0x20 ≤ n ∧ n ≤ 0x7E then [c]
    else if n < 0x10000 then unitEscape n
    else unitEscape (0xD800 + (n - 0x10000) / 1024) ++ unitEscape (0xDC00 + (n - 0x10000) % 1024)

/-- A text in quotes, in ASCII. -/
def quotedChars (w : Wide) : List Char :=
  let one : Point → List Char
    | .char c => escape c
    | .half h => unitEscape h.unit
  '"' :: w.points.flatMap one ++ ['"']

/-- One point of a text over the wire. -/
def wirePoint : Point → List Point
  | .char c =>
    match shortEscape? c with
    | some short => Point.ofChars short
    | none => if c.toNat < 0x20 then Point.ofChars (unitEscape c.toNat) else [.char c]
  | .half h => [.half h]

/-- A text in quotes over the wire. -/
def quotedPoints (w : Wide) : List Point :=
  .char '"' :: w.points.flatMap wirePoint ++ [.char '"']

/-! ## Values -/

section Values

variable {α : Type} (char : Char → α) (quoted : Wide → List α)

mutual

/-- A value, by how characters and texts in quotes are written. -/
def render : Json → List α
  | null => "null".toList.map char
  | bool b => (if b then "true" else "false").toList.map char
  | int i => (Decimal.intDigits i).map char
  | real x => x.chars.map char
  | text s => quoted s
  | broken b => quoted (.broken b)
  | list [] => ['[', ']'].map char
  | list (v :: items) => char '[' :: render v ++ renderItems items
  | object [] => ['\x7b', '\x7d'].map char
  | object ((k, v) :: fields) =>
    char '\x7b' :: quoted k ++ char ':' :: render v ++ renderFields fields

/-- The items after the first, and the closing bracket. -/
def renderItems : List Json → List α
  | [] => [char ']']
  | v :: items => char ',' :: render v ++ renderItems items

/-- The fields after the first, and the closing brace. -/
def renderFields : List (Wide × Json) → List α
  | [] => [char '\x7d']
  | (k, v) :: fields => char ',' :: quoted k ++ char ':' :: render v ++ renderFields fields

end

end Values

/-- The text of a value, in ASCII. -/
def print (v : Json) : String := String.ofList (render id quotedChars v)

/-- The text of a value as it goes over the wire. -/
def wire (v : Json) : List Point := render Point.char quotedPoints v

end CertRenewal.Json
