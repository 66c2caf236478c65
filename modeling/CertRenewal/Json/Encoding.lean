import CertRenewal.Json.Reader
import CertRenewal.Text.Utf8

/-
  JSON as bytes. The encoding is told from a byte order mark or, without one, from where the zero
  bytes stand among the first four; in every other case it is UTF-8. Halves of surrogate pairs
  that stand alone are let pass in all of them.
-/

namespace CertRenewal.Json

/-- The order of the bytes of a unit. -/
inductive ByteOrder where
  | big
  | little
deriving DecidableEq, Repr

/-- The encodings of a text. -/
inductive Encoding where
  | utf8
  | utf16 (order : ByteOrder)
  | utf32 (order : ByteOrder)
deriving DecidableEq, Repr

/-- The byte order marks with their encodings; the longer ones come first. -/
def marks : List (Bytes × Encoding) :=
  [([0x00, 0x00, 0xFE, 0xFF], .utf32 .big), ([0xFF, 0xFE, 0x00, 0x00], .utf32 .little),
    ([0xFE, 0xFF], .utf16 .big), ([0xFF, 0xFE], .utf16 .little), ([0xEF, 0xBB, 0xBF], .utf8)]

/-- The encoding of bytes without a mark. -/
def guess (b : Bytes) : Encoding :=
  match b with
  | [0, _] => .utf16 .big
  | [_, 0] => .utf16 .little
  | 0 :: 0 :: _ :: _ :: _ => .utf32 .big
  | 0 :: _ :: _ :: _ :: _ => .utf16 .big
  | _ :: 0 :: 0 :: 0 :: _ => .utf32 .little
  | _ :: 0 :: _ :: _ :: _ => .utf16 .little
  | _ => .utf8

/-- The encoding of bytes, and the bytes behind its mark. -/
def detect (b : Bytes) : Encoding × Bytes :=
  match marks.findSome? fun (mark, e) => (after? mark b).map (e, ·) with
  | some found => found
  | none => (guess b, b)

/-- The value of a unit. -/
def ByteOrder.unit : ByteOrder → Bytes → Nat
  | big, b => b.toNat
  | little, b => Bytes.toNat b.reverse

/-- The points of units of 16 bits. -/
def ofUnits16 : List Nat → List Point
  | [] => []
  | [n] => [ofUnit n]
  | m :: n :: rest =>
    if isHigh m && isLow n then ofPair m n :: ofUnits16 rest
    else ofUnit m :: ofUnits16 (n :: rest)

/-- The units of two bytes. -/
def units16? (order : ByteOrder) : Bytes → Option (List Nat)
  | [] => some []
  | [_] => none
  | a :: b :: rest => (units16? order rest).map (order.unit [a, b] :: ·)

/-- The points of units of four bytes. -/
def ofUtf32? (order : ByteOrder) : Bytes → Option (List Point)
  | [] => some []
  | a :: b :: c :: d :: rest =>
    let n := order.unit [a, b, c, d]
    if n ≤ 0x10FFFF then (ofUtf32? order rest).map (ofUnit n :: ·) else none
  | _ => none

/-- The half at the front of bytes, where it is written like a character of its own, and the bytes
after it. -/
def half? : Bytes → Option (Point × Bytes)
  | 0xED :: x :: y :: rest =>
    if 0xA0 ≤ x && x ≤ 0xBF && 0x80 ≤ y && y ≤ 0xBF then
      some (ofUnit (Utf8.codePoint [0xED, x, y]), rest)
    else none
  | _ => none

theorem length_lt_of_half? {b rest : Bytes} {p : Point} (h : half? b = some (p, rest)) :
    rest.length < b.length := by
  unfold half? at h
  split at h
  · split at h
    · cases h
      simp only [List.length_cons]
      omega
    · cases h
  · cases h

/-- The points of UTF-8 in which halves may be written like characters. -/
def ofUtf8? (b : Bytes) : Option (List Point) :=
  match _h : half? b with
  | some (p, rest) => (ofUtf8? rest).map (p :: ·)
  | none =>
    match _h : Utf8.decodeOne? b with
    | some (c, rest) => (ofUtf8? rest).map (.char c :: ·)
    | none => if b = [] then some [] else none
termination_by b.length
decreasing_by
  · exact length_lt_of_half? _h
  · exact Utf8.length_lt_of_decodeOne? _h

/-- The text of bytes in an encoding. -/
def Encoding.decode? : Encoding → Bytes → Option (List Point)
  | utf8, b => ofUtf8? b
  | utf16 order, b => (units16? order b).map ofUnits16
  | utf32 order, b => ofUtf32? order b

/-- The value that bytes are. -/
def ofBytes (b : Bytes) : Except ReadError Json :=
  let (encoding, rest) := detect b
  match encoding.decode? rest with
  | some s => parse s
  | none => .error .undecodable

end CertRenewal.Json
