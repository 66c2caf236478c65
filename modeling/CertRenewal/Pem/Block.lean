import CertRenewal.Base64
import CertRenewal.Text.Blank
import CertRenewal.Pieces
import CertRenewal.Text.Utf8

/-
  PEM blocks: labelled byte strings in a text. A frame is what stands between a begin marker and
  the end marker after it, before anything in it has been looked at; a block is a frame whose
  two labels agree, whose headers, if a blank line sets any apart, are headers, and whose
  remaining body is base64 once its white space is gone. Markers and blank lines are looked for
  in one pass that never goes back, so that a sixth dash in front of a marker hides it. Reading
  looks at every frame of a text and fails on the first that is no block. Writing gives lines of
  64 characters.
-/

namespace CertRenewal.Pem

/-- A labelled byte string. -/
structure Block where
  label : String
  content : Bytes
deriving DecidableEq, Repr

/-! ## Markers -/

/-- The five dashes that close a begin line or an end line. -/
def dashes : Bytes := Utf8.ofString "-----"

/-- What a begin line starts with. -/
def beginMarker : Bytes := Utf8.ofString "-----BEGIN "

/-- What an end line starts with. -/
def endMarker : Bytes := Utf8.ofString "-----END "

/-! ## Scanning -/

section Scan

variable {α : Type} [DecidableEq α]

/-- Reads on until `marker` is complete, of which `missing` is still to come, and gives what was
read and what is left. Nothing is read twice: an element that breaks off what looked like the
marker is passed over, and the marker has to start behind it. -/
def scanFrom? (marker : List α) : List α → List α → Option (List α × List α)
  | [], l => some ([], l)
  | _ :: _, [] => none
  | m :: missing, x :: l =>
    (scanFrom? marker (if x = m then missing else marker) l).map fun (read, rest) =>
      (x :: read, rest)

/-- The parts of a list before and after a marker that is found in one pass. -/
def scan? (marker l : List α) : Option (List α × List α) :=
  (scanFrom? marker marker l).map fun (read, rest) =>
    (read.take (read.length - marker.length), rest)

theorem eq_append_of_scanFrom? {marker missing l read rest : List α}
    (h : scanFrom? marker missing l = some (read, rest)) : l = read ++ rest := by
  induction l generalizing missing read with
  | nil => cases missing <;> simp_all [scanFrom?]
  | cons x l ih =>
    cases missing with
    | nil => simp_all [scanFrom?]
    | cons m missing =>
      simp only [scanFrom?, Option.map_eq_some_iff, Prod.mk.injEq] at h
      obtain ⟨⟨r, s⟩, hrs, rfl, rfl⟩ := h
      simp [← ih hrs]

theorem length_le_of_scanFrom? {marker missing l read rest : List α}
    (hm : missing.length ≤ marker.length) (h : scanFrom? marker missing l = some (read, rest)) :
    missing.length ≤ read.length := by
  induction l generalizing missing read with
  | nil => cases missing <;> simp_all [scanFrom?]
  | cons x l ih =>
    cases missing with
    | nil => simp
    | cons m missing =>
      simp only [scanFrom?, Option.map_eq_some_iff, Prod.mk.injEq] at h
      obtain ⟨⟨r, s⟩, hrs, rfl, rfl⟩ := h
      simp only [List.length_cons] at hm ⊢
      split at hrs
      · have := ih (by omega) hrs; omega
      · have := ih (Nat.le_refl _) hrs; omega

/-- What a scan leaves is shorter than what it was given by the marker at least. -/
theorem length_of_scan? {marker l before rest : List α} (h : scan? marker l = some (before, rest)) :
    marker.length + rest.length ≤ l.length := by
  simp only [scan?, Option.map_eq_some_iff, Prod.mk.injEq] at h
  obtain ⟨⟨r, s⟩, hrs, -, rfl⟩ := h
  have := length_le_of_scanFrom? (Nat.le_refl _) hrs
  rw [eq_append_of_scanFrom? hrs, List.length_append]
  exact Nat.add_le_add_right this _

end Scan

/-! ## Frames -/

/-- The label of a begin line, the text up to the next end line, and that line's label. -/
structure Frame where
  opening : Bytes
  body : Bytes
  closing : Bytes
deriving DecidableEq, Repr

/-- Space, tab, carriage return and line feed, which are skipped after a begin line. -/
def isLineSpace (x : UInt8) : Bool := x = 32 || x = 9 || x = 13 || x = 10

/-- The first frame of a text and what follows it; nothing when a marker is missing. -/
def nextFrame? (data : Bytes) : Option (Frame × Bytes) := do
  let (_, data) ← scan? beginMarker data
  let (opening, data) ← scan? dashes data
  let (body, data) ← scan? endMarker (data.dropWhile isLineSpace)
  let (closing, rest) ← scan? dashes data
  some (⟨opening, body, closing⟩, rest)

theorem length_lt_of_nextFrame? {data rest : Bytes} {f : Frame}
    (h : nextFrame? data = some (f, rest)) : rest.length < data.length := by
  simp only [nextFrame?, Option.bind_eq_bind, Option.bind_eq_some_iff, Prod.exists,
    Option.some.injEq, Prod.mk.injEq] at h
  obtain ⟨a, b, h₁, c, d, h₂, e, f', h₃, g, i, h₄, _, rfl⟩ := h
  have l₁ := length_of_scan? h₁
  have l₂ := length_of_scan? h₂
  have l₃ := length_of_scan? h₃
  have l₄ := length_of_scan? h₄
  have ld : (d.dropWhile isLineSpace).length ≤ d.length := (List.dropWhile_suffix _).length_le
  have hm : beginMarker.length = 11 := by decide
  omega

/-- The frames of a text, in order. -/
def frames (data : Bytes) : List Frame :=
  match _h : nextFrame? data with
  | some (f, rest) => f :: frames rest
  | none => []
termination_by data.length
decreasing_by exact length_lt_of_nextFrame? _h

/-! ## From frames to blocks -/

/-- The headers and the remaining body, which the first blank line sets apart. Lines that end
in a carriage return count only if there is no blank line without one. -/
def splitHeaders (body : List Char) : List Char × List Char :=
  match scan? ['\n', '\n'] body with
  | some parts => parts
  | none => (scan? ['\r', '\n', '\r', '\n'] body).getD ([], body)

/-- The lines of a text; a line feed at its very end opens no further line. -/
def lines (s : List Char) : List (List Char) :=
  match (Pieces.splitAt '\n' s).reverse with
  | [] :: pieces => pieces.reverse
  | pieces => pieces.reverse

/-- Whether a line has a colon, which parts the name of a header from its value. -/
def isHeader (line : List Char) : Bool := line.contains ':'

/-- The byte string written in the body of a frame. -/
def content? (body : List Char) : Option Bytes :=
  let (headers, rest) := splitHeaders body
  if (lines headers).all isHeader then Base64.decode? (rest.filter (!Text.isWhiteSpace ·))
  else none

/-- The block of a frame, or nothing when the frame is not in order. -/
def Frame.block? (f : Frame) : Option Block := do
  let label ← Utf8.toString? f.opening
  let closing ← Utf8.toString? f.closing
  let body ← Utf8.decode? f.body
  if label ≠ "" ∧ label = closing then
    let content ← content? body
    some ⟨label, content⟩
  else none

/-- The blocks of a text, or nothing when one of its frames is not in order. -/
def read? (data : Bytes) : Option (List Block) := (frames data).mapM Frame.block?

/-! ## Writing -/

/-- One line of a text. -/
def line (s : List Char) : List Char := s ++ ['\n']

/-- The lines of base64 text in a block: 64 characters each, the last one 1 to 64. -/
def bodyLines (content : Bytes) : List (List Char) := Pieces.chunks 63 (Base64.encode content)

/-- The text of a block. -/
def text (b : Block) : List Char :=
  line ("-----BEGIN ".toList ++ b.label.toList ++ "-----".toList) ++
    (bodyLines b.content).flatMap line ++
    line ("-----END ".toList ++ b.label.toList ++ "-----".toList)

/-- The bytes of a block. -/
def write (b : Block) : Bytes := Utf8.encode (text b)

end CertRenewal.Pem
