import CertRenewal.Bytes

/-
  DER elements: a tag, a definite length in its shortest form, and the contents. The contents of
  an element stay bytes; whoever knows that they are elements again asks for `children?`. Each
  reader takes the one written form of its value and returns what follows it, which is always
  shorter, so that a row of elements is read by recursion on what is left.
-/

namespace CertRenewal.Der

/-! ## Base 128 -/

/-- A number in base 128: seven bits in a byte, the top bit set on all bytes but the last. -/
def base128 (n : Nat) : Bytes :=
  let rec high (n : Nat) : Bytes :=
    if n = 0 then [] else high (n / 128) ++ [UInt8.ofNat (128 + n % 128)]
  high (n / 128) ++ [UInt8.ofNat (n % 128)]

/-- Reads on a number of which `value` has been read. -/
def readBase128From? (value : Nat) : Bytes → Option (Nat × Bytes)
  | [] => none
  | x :: rest =>
    if x < 128 then some (value * 128 + x.toNat, rest)
    else readBase128From? (value * 128 + (x.toNat - 128)) rest

/-- A number in base 128 whose first byte is not a padding one, and the bytes after it. -/
def readBase128? : Bytes → Option (Nat × Bytes)
  | [] => none
  | x :: rest => if x = 128 then none else readBase128From? 0 (x :: rest)

theorem length_lt_of_readBase128From? {value n : Nat} {b rest : Bytes}
    (h : readBase128From? value b = some (n, rest)) : rest.length < b.length := by
  induction b generalizing value with
  | nil => simp [readBase128From?] at h
  | cons x tail ih =>
    unfold readBase128From? at h
    split at h
    · simp only [Option.some.injEq, Prod.mk.injEq] at h
      obtain ⟨_, rfl⟩ := h
      simp
    · have := ih h
      simp only [List.length_cons]; omega

theorem length_lt_of_readBase128? {n : Nat} {b rest : Bytes}
    (h : readBase128? b = some (n, rest)) : rest.length < b.length := by
  cases b with
  | nil => simp [readBase128?] at h
  | cons x tail =>
    simp only [readBase128?] at h
    split at h
    · simp at h
    · exact length_lt_of_readBase128From? h

/-! ## Tags -/

/-- The four classes of tags. -/
inductive TagClass where
  | standard
  | application
  | context
  | reserved
deriving DecidableEq, Repr

/-- What the contents of an element are: its class, its number in the class, and whether the
contents are elements again. -/
structure Tag where
  tagClass : TagClass
  constructed : Bool
  number : Nat
deriving DecidableEq, Repr

namespace TagClass

/-- The two top bits of a tag. -/
def code : TagClass → Nat
  | standard => 0
  | application => 1
  | context => 2
  | reserved => 3

/-- The class with the given two bits. -/
def ofCode : Nat → TagClass
  | 0 => standard
  | 1 => application
  | 2 => context
  | _ => reserved

@[simp] theorem ofCode_code (c : TagClass) : ofCode c.code = c := by cases c <;> rfl

end TagClass

namespace Tag

/-- The identifier bytes; numbers from 31 on are in base 128 after a lead byte. -/
def encode (t : Tag) : Bytes :=
  let top := t.tagClass.code * 64 + (if t.constructed then 32 else 0)
  if t.number < 31 then [UInt8.ofNat (top + t.number)]
  else UInt8.ofNat (top + 31) :: base128 t.number

/-- Numbers in a class have at most 32 bits. -/
def isProper (t : Tag) : Bool := t.number < 1 <<< 32

/-- A tag and the bytes after it. A number below 31 has no long form. -/
def read? : Bytes → Option (Tag × Bytes)
  | [] => none
  | lead :: rest =>
    let tag := Tag.mk (.ofCode (lead.toNat / 64)) (lead.toNat / 32 % 2 == 1)
    if lead.toNat % 32 < 31 then some (tag (lead.toNat % 32), rest)
    else match readBase128? rest with
      | some (number, rest) =>
        if 31 ≤ number && (tag number).isProper then some (tag number, rest) else none
      | none => none

theorem length_lt_of_read? {t : Tag} {b rest : Bytes} (h : read? b = some (t, rest)) :
    rest.length < b.length := by
  cases b with
  | nil => simp [read?] at h
  | cons lead tail =>
    simp only [read?] at h
    split at h
    · simp only [Option.some.injEq, Prod.mk.injEq] at h
      obtain ⟨_, rfl⟩ := h
      simp
    · split at h
      · rename_i hr
        have := length_lt_of_readBase128? hr
        split at h
        · simp only [Option.some.injEq, Prod.mk.injEq] at h
          obtain ⟨_, rfl⟩ := h
          simp only [List.length_cons]; omega
        · simp at h
      · simp at h

/-- A tag of the standard class whose contents are a value. -/
def primitive (number : Nat) : Tag := ⟨.standard, false, number⟩

def boolean : Tag := primitive 1
def integer : Tag := primitive 2
def bitString : Tag := primitive 3
def octetString : Tag := primitive 4
def null : Tag := primitive 5
def objectIdentifier : Tag := primitive 6
def utf8String : Tag := primitive 12
def printableString : Tag := primitive 19
def utcTime : Tag := primitive 23
def generalizedTime : Tag := primitive 24
def universalString : Tag := primitive 28
def bmpString : Tag := primitive 30
def sequence : Tag := ⟨.standard, true, 16⟩
def set : Tag := ⟨.standard, true, 17⟩

/-- A tag of the context class around elements, or around a value of known type. -/
def context (constructed : Bool) (number : Nat) : Tag := ⟨.context, constructed, number⟩

end Tag

/-! ## Lengths -/

/-- The length bytes: one byte below 128, else a count and the shortest big-endian number. -/
def encodeLength (n : Nat) : Bytes :=
  if n < 128 then [UInt8.ofNat n]
  else
    let digits := Bytes.ofNat n
    UInt8.ofNat (128 + digits.length) :: digits

/-- The most bytes after the count of a length; the next count has no meaning. -/
def maxLengthBytes : Nat := 126

/-- A length in its shortest form, and the bytes after it. -/
def readLength? : Bytes → Option (Nat × Bytes)
  | [] => none
  | x :: rest =>
    if x.toNat < 128 then some (x.toNat, rest)
    else
      let count := x.toNat - 128
      let digits := rest.take count
      let n := Bytes.toNat digits
      if 1 ≤ count ∧ count ≤ maxLengthBytes ∧ digits.length = count ∧ digits.head? ≠ some 0 ∧ 128 ≤ n then
        some (n, rest.drop count)
      else none

theorem length_lt_of_readLength? {n : Nat} {b rest : Bytes} (h : readLength? b = some (n, rest)) :
    rest.length < b.length := by
  cases b with
  | nil => simp [readLength?] at h
  | cons x tail =>
    simp only [readLength?] at h
    split at h
    · simp only [Option.some.injEq, Prod.mk.injEq] at h
      obtain ⟨_, rfl⟩ := h
      simp
    · split at h
      · simp only [Option.some.injEq, Prod.mk.injEq] at h
        obtain ⟨_, rfl⟩ := h
        simp only [List.length_drop, List.length_cons]; omega
      · simp at h

/-! ## Elements -/

/-- A tag and the bytes it speaks of. -/
structure Element where
  tag : Tag
  contents : Bytes
deriving DecidableEq, Repr

namespace Element

/-- The bytes of an element. -/
def encode (e : Element) : Bytes := e.tag.encode ++ encodeLength e.contents.length ++ e.contents

/-- An element and the bytes after it. -/
def read? (b : Bytes) : Option (Element × Bytes) := do
  let (tag, b) ← Tag.read? b
  let (n, b) ← readLength? b
  if n ≤ b.length then some (⟨tag, b.take n⟩, b.drop n) else none

theorem length_lt_of_read? {e : Element} {b rest : Bytes} (h : read? b = some (e, rest)) :
    rest.length < b.length := by
  simp only [read?, Option.bind_eq_bind, Option.bind_eq_some_iff, Prod.exists] at h
  obtain ⟨tag, b₁, h₁, n, b₂, h₂, h⟩ := h
  have l₁ := Tag.length_lt_of_read? h₁
  have l₂ := length_lt_of_readLength? h₂
  split at h
  · simp only [Option.some.injEq, Prod.mk.injEq] at h
    obtain ⟨_, rfl⟩ := h
    simp only [List.length_drop]; omega
  · simp at h

end Element

/-- The bytes of elements in a row. -/
def encodeAll (es : List Element) : Bytes := es.flatMap Element.encode

/-- The elements that a byte string is made of, with nothing left over. -/
def readAll? (b : Bytes) : Option (List Element) :=
  if b = [] then some []
  else match _h : Element.read? b with
    | some (e, rest) => (readAll? rest).map (e :: ·)
    | none => none
termination_by b.length
decreasing_by exact Element.length_lt_of_read? _h

/-- The single element that a byte string is. -/
def readOne? (b : Bytes) : Option Element :=
  match Element.read? b with
  | some (e, []) => some e
  | _ => none

namespace Element

/-- The contents of an element with a given tag. -/
def contents? (tag : Tag) (e : Element) : Option Bytes :=
  if e.tag = tag then some e.contents else none

/-- The elements inside an element with a given tag. -/
def children? (tag : Tag) (e : Element) : Option (List Element) := do
  let contents ← e.contents? tag
  readAll? contents

/-- The only element inside an element with a given tag. -/
def inside? (tag : Tag) (e : Element) : Option Element := do
  match ← e.children? tag with
  | [inner] => some inner
  | _ => none

/-- The tag of the element can be written. -/
def isProper (e : Element) : Bool := e.tag.isProper

/-- An element made of elements. -/
def node (tag : Tag) (es : List Element) : Element := ⟨tag, encodeAll es⟩

/-- A sequence of elements. -/
def sequence (es : List Element) : Element := node .sequence es

/-- The element that says that there is no value. -/
def null : Element := ⟨.null, []⟩

end Element

end CertRenewal.Der
