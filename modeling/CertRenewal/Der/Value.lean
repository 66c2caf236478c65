import CertRenewal.Der.Element
import CertRenewal.Text.Utf8

/-
  The values of the primitive types that certificates, requests and keys are made of, each with
  the element it is written as and the reading of that element. Readings are strict: integers
  have no padding byte, unused bits of a bit string are zero, true has only one form, and object
  identifiers are bounded in length and in each of their numbers.
-/

namespace CertRenewal.Der

/-! ## Integers -/

/-- Two's complement contents of a number that is not negative: its bytes, with a zero byte in
front where the first bit would read as a sign. -/
def natContents (n : Nat) : Bytes :=
  match Bytes.ofNat n with
  | [] => [0]
  | x :: rest => if x < 128 then x :: rest else 0 :: x :: rest

/-- Every bit turned round. -/
def complement (b : Bytes) : Bytes := b.map (255 - ·)

/-- Two's complement contents of an integer, as few bytes as possible. -/
def intContents (i : Int) : Bytes :=
  if 0 ≤ i then natContents i.toNat else complement (natContents (-i - 1).toNat)

/-- Whether the first byte is there for more than the sign of the second. -/
def isMinimal : Bytes → Bool
  | [] => false
  | [_] => true
  | x :: y :: _ => !(x == 0 && y < 128) && !(x == 255 && 128 ≤ y)

/-- The integer with the given contents. -/
def intOfContents? (b : Bytes) : Option Int :=
  if isMinimal b then
    if b.head?.any (· < 128) then some (Bytes.toNat b)
    else some (-(Bytes.toNat (complement b)) - 1)
  else none

namespace Element

/-- An integer as an element. -/
def ofInt (i : Int) : Element := ⟨.integer, intContents i⟩

/-- The integer that an element is. -/
def int? (e : Element) : Option Int := do
  let contents ← e.contents? .integer
  intOfContents? contents

/-- The natural number that an element is. -/
def nat? (e : Element) : Option Nat := do
  let i ← e.int?
  if 0 ≤ i then some i.toNat else none

end Element

/-! ## Object identifiers -/

/-- An object identifier, as the numbers that its contents spell out; the first one stands for
the first two arcs. -/
structure Oid where
  parts : List Nat
deriving DecidableEq, Repr

namespace Oid

/-- The identifier with the given arcs. -/
def ofArcs : List Nat → Oid
  | a :: b :: rest => ⟨(a * 40 + b) :: rest⟩
  | arcs => ⟨arcs⟩

/-- The contents of an identifier. -/
def contents (o : Oid) : Bytes := o.parts.flatMap base128

/-- How many bytes the contents of an identifier take at most. -/
def maxLength : Nat := 63

/-- An identifier has numbers, each of at most 128 bits, and its contents are not too long. -/
def isProper (o : Oid) : Bool :=
  !o.parts.isEmpty && o.parts.all (· < 1 <<< 128) && o.contents.length ≤ maxLength

/-- The numbers that contents spell out, with nothing left over. -/
def readParts? (b : Bytes) : Option (List Nat) :=
  if b = [] then some []
  else match _h : readBase128? b with
    | some (n, rest) => (readParts? rest).map (n :: ·)
    | none => none
termination_by b.length
decreasing_by exact length_lt_of_readBase128? _h

/-- The identifier with the given contents. -/
def ofContents? (b : Bytes) : Option Oid :=
  if b.length ≤ maxLength then ((readParts? b).map Oid.mk).filter isProper else none

/-- An identifier as an element. -/
def toElement (o : Oid) : Element := ⟨.objectIdentifier, o.contents⟩

/-- The identifier that an element is. -/
def ofElement? (e : Element) : Option Oid := do
  let contents ← e.contents? .objectIdentifier
  ofContents? contents

end Oid

/-! ## Bit strings -/

/-- A bit string: whole bytes, of which the last `unused` bits do not belong to it. -/
structure BitString where
  unused : Nat
  bytes : Bytes
deriving DecidableEq, Repr

namespace BitString

/-- At most seven bits are unused, none of an empty string, and they are zero. -/
def isProper (s : BitString) : Bool :=
  s.unused ≤ 7 &&
    match s.bytes.getLast? with
    | none => s.unused == 0
    | some x => x.toNat % (1 <<< s.unused) == 0

/-- The bit string of whole bytes. -/
def ofBytes (b : Bytes) : BitString := ⟨0, b⟩

/-- The contents of a bit string: the count of unused bits, then the bytes. -/
def contents (s : BitString) : Bytes := UInt8.ofNat s.unused :: s.bytes

/-- The bit string with the given contents. -/
def ofContents? : Bytes → Option BitString
  | [] => none
  | unused :: bytes =>
    let s : BitString := ⟨unused.toNat, bytes⟩
    if s.isProper then some s else none

/-- A bit string as an element with the given tag. -/
def toElement (tag : Tag) (s : BitString) : Element := ⟨tag, s.contents⟩

/-- The bit string that an element with the given tag is. -/
def ofElement? (tag : Tag) (e : Element) : Option BitString := do
  let contents ← e.contents? tag
  ofContents? contents

end BitString

/-! ## Other types -/

namespace Element

/-- Truth, which is written as a byte of ones. -/
def yes : Element := ⟨.boolean, [255]⟩

/-- A byte string as an element. -/
def ofBytes (b : Bytes) : Element := ⟨.octetString, b⟩

/-- The byte string that an element is. -/
def bytes? (e : Element) : Option Bytes := e.contents? .octetString

/-- A text as an element. -/
def ofText (s : String) : Element := ⟨.utf8String, Utf8.ofString s⟩

/-- The text that an element is. -/
def text? (e : Element) : Option String := do
  let contents ← e.contents? .utf8String
  Utf8.toString? contents

end Element

end CertRenewal.Der
