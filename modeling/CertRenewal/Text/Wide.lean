import CertRenewal.Bytes
import CertRenewal.Text.Decimal
import CertRenewal.Text.Utf8

/-
  Texts from outside. They may hold what no other text here does: halves of surrogate pairs that
  stand alone. A text without any is an ordinary text; one that has some is kept apart, since it
  has no UTF-8.
-/

namespace CertRenewal

/-! ## Points -/

/-- Half of a surrogate pair, by its UTF-16 unit. -/
structure Half where
  unit : Nat
  least : 0xD800 ≤ unit
  most : unit ≤ 0xDFFF
deriving DecidableEq, Repr

/-- A place of a text: a character, or half of a pair that stands alone. -/
inductive Point where
  | char (c : Char)
  | half (h : Half)
deriving DecidableEq, Repr

namespace Point

/-- The character that a point is. -/
def char? : Point → Option Char
  | char c => some c
  | half _ => none

/-- Whether a point is half of a pair. -/
def isHalf : Point → Bool
  | char _ => false
  | half _ => true

@[simp] theorem isHalf_char (c : Char) : isHalf (char c) = false := rfl

/-- The number of a point. -/
def toNat : Point → Nat
  | char c => c.toNat
  | half h => h.unit

/-- Characters as points. -/
def ofChars (s : List Char) : List Point := s.map char

theorem filterMap_char?_ofChars (s : List Char) : (ofChars s).filterMap char? = s := by
  rw [ofChars, List.filterMap_map]
  exact List.filterMap_some

theorem isHalf_of_mem_ofChars {s : List Char} {p : Point} (h : p ∈ ofChars s) :
    p.isHalf = false := by
  obtain ⟨c, -, rfl⟩ := List.mem_map.1 h
  rfl

end Point

/-! ## Bytes -/

/-- A UTF-16 unit in ASCII. -/
def unitEscape (n : Nat) : List Char :=
  '\\' :: 'u' ::
    [n / 4096 % 16, n / 256 % 16, n / 16 % 16, n % 16].map Bytes.hexDigit

/-- Why points have no UTF-8: the first half among them, where it stands, and how many halves
stand there side by side. -/
structure Unencodable where
  first : Half
  position : Nat
  count : Nat
deriving DecidableEq, Repr

/-- The wording of an error. -/
def Unencodable.message (e : Unencodable) : String :=
  let digits := fun n => String.ofList (Decimal.digits n)
  let what :=
    if e.count = 1 then
      "character '" ++ String.ofList (unitEscape e.first.unit) ++ "' in position " ++
        digits e.position
    else
      "characters in position " ++ digits e.position ++ "-" ++ digits (e.position + e.count - 1)
  "'utf-8' codec can't encode " ++ what ++ ": surrogates not allowed"

namespace Point

/-- Why some points have no UTF-8, if they have none, where `position` points stand before
them. -/
def unencodableFrom? (position : Nat) : List Point → Option Unencodable
  | [] => none
  | char _ :: s => unencodableFrom? (position + 1) s
  | half h :: s => some ⟨h, position, (s.takeWhile isHalf).length + 1⟩

/-- The bytes of some points. -/
def utf8 (s : List Point) : Except Unencodable Bytes :=
  match unencodableFrom? 0 s with
  | some e => .error e
  | none => .ok (Utf8.encode (s.filterMap char?))

/-- Points have UTF-8 exactly if there is no half among them. -/
theorem unencodableFrom?_eq_none_iff {position : Nat} {s : List Point} :
    unencodableFrom? position s = none ↔ ∀ p ∈ s, p.isHalf = false := by
  induction s generalizing position with
  | nil => exact iff_of_true rfl nofun
  | cons p s ih =>
    rw [List.forall_mem_cons]
    cases p with
    | char c => exact ih.trans (and_iff_right rfl).symm
    | half h => exact iff_of_false nofun nofun

theorem utf8_ofChars (s : List Char) : utf8 (ofChars s) = .ok (Utf8.encode s) := by
  have whole : unencodableFrom? 0 (ofChars s) = none :=
    unencodableFrom?_eq_none_iff.2 fun _ => isHalf_of_mem_ofChars
  rw [utf8, whole, filterMap_char?_ofChars]

theorem utf8_eq_error_iff {s : List Point} :
    (∃ e, utf8 s = .error e) ↔ ∃ p ∈ s, p.isHalf = true := by
  unfold utf8
  cases found : unencodableFrom? 0 s with
  | none =>
    have whole := unencodableFrom?_eq_none_iff.1 found
    refine iff_of_false nofun ?_
    rintro ⟨p, hp, half⟩
    rw [whole p hp] at half
    cases half
  | some e =>
    have halves : ¬ ∀ p ∈ s, p.isHalf = false := by
      intro whole
      rw [unencodableFrom?_eq_none_iff.2 whole] at found
      cases found
    exact iff_of_true ⟨e, rfl⟩ (by simpa using halves)

end Point

/-! ## Texts -/

/-- A text in which a half stands alone. -/
structure Broken where
  points : List Point
  broken : points.any Point.isHalf = true
deriving DecidableEq, Repr

/-- A text from outside. -/
inductive Wide where
  | text (s : String)
  | broken (b : Broken)
deriving DecidableEq, Repr

instance : Coe String Wide := ⟨Wide.text⟩

namespace Wide

/-- The text of some points. -/
def ofPoints (s : List Point) : Wide :=
  if h : s.any Point.isHalf = true then broken ⟨s, h⟩
  else text (String.ofList (s.filterMap Point.char?))

/-- The points of a text. -/
def points : Wide → List Point
  | text s => Point.ofChars s.toList
  | broken b => b.points

/-- Whether no half stands alone in a text. -/
def isWhole : Wide → Bool
  | text _ => true
  | broken _ => false

/-- The bytes of a text. -/
def utf8 (w : Wide) : Except Unencodable Bytes := Point.utf8 w.points

theorem utf8_text (s : String) : (text s).utf8 = .ok (Utf8.ofString s) :=
  Point.utf8_ofChars s.toList

/-- A broken text has no bytes. -/
theorem exists_utf8_broken (b : Broken) : ∃ e, (broken b).utf8 = .error e := by
  obtain ⟨p, hp, half⟩ := List.any_eq_true.1 b.broken
  exact Point.utf8_eq_error_iff.2 ⟨p, hp, half⟩

end Wide

end CertRenewal
