import CertRenewal.Text.Decimal
import CertRenewal.Text.Hexadecimal
import CertRenewal.Pieces

/-
  IP addresses: the literals that are read as one, the text an address is shown as, and its
  packed bytes. A version 4 literal is four decimal octets without leading zeros. A version 6
  literal is eight groups of hexadecimal digits, where one double colon may stand for a run of
  zero groups and a dotted version 4 address for the last two groups; a zone may follow after a
  percent sign. An address is shown in one form, whatever literal it was read from: lower case,
  with the longest run of two or more zero groups left out.
-/

namespace CertRenewal

/-- A version 4 address. -/
structure Ipv4 where
  a : UInt8
  b : UInt8
  c : UInt8
  d : UInt8
deriving DecidableEq, Repr

/-- A version 6 address: eight groups of 16 bits. -/
structure Ipv6 where
  groups : List UInt16
  length_groups : groups.length = 8
deriving DecidableEq, Repr

/-- An address of either version, the later one with an optional zone. -/
inductive Ip where
  | v4 (address : Ipv4)
  | v6 (address : Ipv6) (zone : Option String)
deriving DecidableEq, Repr

/-! ## Version 4 -/

namespace Ipv4

/-- An octet: one to three digits, no leading zero, at most 255. -/
def octet? (s : List Char) : Option UInt8 :=
  if s.length ≤ 3 ∧ (s = ['0'] ∨ s.head? ≠ some '0') then do
    let n ← Decimal.value? s
    if n ≤ 255 then some (UInt8.ofNat n) else none
  else none

/-- The address that a list of characters spells. -/
def ofChars? (s : List Char) : Option Ipv4 :=
  match Pieces.splitAt '.' s with
  | [a, b, c, d] => do
    let a ← octet? a
    let b ← octet? b
    let c ← octet? c
    let d ← octet? d
    some ⟨a, b, c, d⟩
  | _ => none

/-- The four bytes. -/
def packed (i : Ipv4) : Bytes := [i.a, i.b, i.c, i.d]

/-- The text. -/
def chars (i : Ipv4) : List Char :=
  Pieces.joinWith '.' (i.packed.map fun x => Decimal.digits x.toNat)

/-- The two groups that the address stands for at the end of a version 6 literal. -/
def groups (i : Ipv4) : List UInt16 :=
  [UInt16.ofNat (i.a.toNat * 256 + i.b.toNat), UInt16.ofNat (i.c.toNat * 256 + i.d.toNat)]

end Ipv4

/-! ## Version 6 -/

namespace Ipv6

/-- A group: one to four hexadecimal digits. -/
def group? (s : List Char) : Option UInt16 :=
  if s.length ≤ 4 then (Hexadecimal.value? s).map UInt16.ofNat else none

/-- The groups that pieces between colons spell, the last piece possibly dotted. -/
def groupsOfPieces? : List (List Char) → Option (List UInt16)
  | [] => some []
  | [last] =>
    if last.contains '.' then (Ipv4.ofChars? last).map Ipv4.groups
    else (group? last).map ([·])
  | piece :: pieces => do
    let g ← group? piece
    let gs ← groupsOfPieces? pieces
    some (g :: gs)

/-- The groups of one side of a double colon, or of a literal without one. -/
def side? (s : List Char) : Option (List UInt16) :=
  if s = [] then some [] else groupsOfPieces? (Pieces.splitAt ':' s)

/-- The groups before a double colon, where a dotted address has no place. -/
def leftSide? (s : List Char) : Option (List UInt16) :=
  if s.contains '.' then none else side? s

/-- The address with the given groups, if there are eight. -/
def ofGroups? (groups : List UInt16) : Option Ipv6 :=
  if h : groups.length = 8 then some ⟨groups, h⟩ else none

/-- The address that a list of characters spells. -/
def ofChars? (s : List Char) : Option Ipv6 :=
  match cut? [':', ':'] s with
  | some (left, right) => do
    let left ← leftSide? left
    let right ← side? right
    let missing := 8 - (left.length + right.length)
    if 1 ≤ missing then ofGroups? (left ++ List.replicate missing 0 ++ right) else none
  | none => do
    let groups ← side? s
    ofGroups? groups

/-- The sixteen bytes. -/
def packed (i : Ipv6) : Bytes :=
  i.groups.flatMap fun g => [UInt8.ofNat (g.toNat / 256), UInt8.ofNat (g.toNat % 256)]

/-- The number of zero groups at the start of a list. -/
def zeros (groups : List UInt16) : Nat := (groups.takeWhile (· == 0)).length

/-- Where the longest run of zero groups starts, and how long it is; the first of equals. -/
def longestZeros (groups : List UInt16) : Nat × Nat :=
  (List.range groups.length).foldl
    (fun (start, length) i =>
      let here := zeros (groups.drop i)
      if length < here then (i, here) else (start, length))
    (0, 0)

/-- Groups between colons. -/
def colonText (groups : List UInt16) : List Char :=
  Pieces.joinWith ':' (groups.map fun g => Hexadecimal.digits g.toNat)

/-- The text. -/
def chars (i : Ipv6) : List Char :=
  let (start, length) := longestZeros i.groups
  if 2 ≤ length then
    colonText (i.groups.take start) ++ ':' :: ':' :: colonText (i.groups.drop (start + length))
  else colonText i.groups

end Ipv6

/-! ## Either version -/

namespace Ip

/-- The part of a version 6 literal before its zone, and the zone, which is neither empty nor
holds another percent sign. -/
def splitZone? (s : List Char) : Option (List Char × Option String) :=
  match cut? ['%'] s with
  | none => some (s, none)
  | some (address, zone) =>
    if zone ≠ [] ∧ !zone.contains '%' then some (address, some (String.ofList zone)) else none

/-- The address that a list of characters spells. No literal has a slash. -/
def ofChars? (s : List Char) : Option Ip :=
  if s.contains '/' then none
  else match Ipv4.ofChars? s with
    | some i => some (.v4 i)
    | none => do
      let (address, zone) ← splitZone? s
      let i ← Ipv6.ofChars? address
      some (.v6 i zone)

/-- The packed bytes, in which a zone has no place. -/
def packed : Ip → Bytes
  | v4 i => i.packed
  | v6 i _ => i.packed

/-- The characters of the text. -/
def chars : Ip → List Char
  | v4 i => i.chars
  | v6 i none => i.chars
  | v6 i (some zone) => i.chars ++ '%' :: zone.toList

/-- The text. -/
def text (i : Ip) : String := String.ofList i.chars

/-- The version number. -/
def version : Ip → Nat
  | v4 _ => 4
  | v6 _ _ => 6

end Ip

end CertRenewal
