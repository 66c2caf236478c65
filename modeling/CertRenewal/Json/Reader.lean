import CertRenewal.Json.Value
import CertRenewal.Text.Hexadecimal

/-
  Reading JSON. Beyond the standard the reader accepts the names NaN, Infinity and -Infinity as
  numbers; of several fields with one name the last one counts. Halves of surrogate pairs may
  stand alone inside texts, as they are or as escapes. A text that is no JSON is refused with the
  first problem and the position at which it was found, counted in points. While reading, a place
  is held as what is left of the text, so that every step can show that less is left after it.
-/

namespace CertRenewal.Json

/-- What can be wrong with a text. -/
inductive Problem where
  | expectingValue
  | expectingName
  | expectingColon
  | expectingComma
  | unterminatedText
  | controlCharacter
  | unknownEscape
  | brokenUnicodeEscape
  | extraData
deriving DecidableEq, Repr

/-- The wording of a problem. -/
def Problem.message : Problem → String
  | expectingValue => "Expecting value"
  | expectingName => "Expecting property name enclosed in double quotes"
  | expectingColon => "Expecting ':' delimiter"
  | expectingComma => "Expecting ',' delimiter"
  | unterminatedText => "Unterminated string starting at"
  | controlCharacter => "Invalid control character at"
  | unknownEscape => "Invalid \\escape"
  | brokenUnicodeEscape => "Invalid \\uXXXX escape"
  | extraData => "Extra data"

/-- Why no value could be read. -/
inductive ReadError where
  | malformed (problem : Problem) (position : Nat)
  | undecodable
  | tooDeep
  | tooManyDigits
deriving DecidableEq, Repr

/-- Why reading stopped, with what was left of the text there. -/
inductive Stop where
  | problem (what : Problem) (left : List Point)
  | tooDeep
  | tooManyDigits
deriving DecidableEq, Repr

/-- A stop as an error about the whole text. -/
def Stop.toError (whole : Nat) : Stop → ReadError
  | problem what left => .malformed what (whole - left.length)
  | tooDeep => .tooDeep
  | tooManyDigits => .tooManyDigits

/-- How many levels of lists and objects a text may have. -/
def maxDepth : Nat := 965

/-- How many digits an integer may have. -/
def maxIntDigits : Nat := 4300

/-- What is left after a step, less than before it. -/
abbrev Less (s : List Point) := { r : List Point // r.length < s.length }

/-- What is left after a step that may have taken nothing. -/
abbrev NoMore (s : List Point) := { r : List Point // r.length ≤ s.length }

/-! ## Spaces -/

/-- The four characters that may stand between tokens. -/
def isSpace (p : Point) : Bool :=
  p = .char ' ' || p = .char '\t' || p = .char '\n' || p = .char '\r'

/-- A text from its first point on that is no space. -/
def skip (s : List Point) : NoMore s :=
  ⟨s.dropWhile isSpace, (List.dropWhile_suffix isSpace).length_le⟩

theorem length_skip_lt (x : Point) (rest : List Point) :
    (skip rest).val.length < (x :: rest).length :=
  Nat.lt_succ_of_le (skip rest).property

/-- What follows a given character and the spaces behind it, if a text begins with it. -/
def take? (c : Char) (s : List Point) : Option (Less s) :=
  match s with
  | [] => none
  | x :: rest =>
    if x = .char c then
      some ⟨(skip rest).val, length_skip_lt x rest⟩
    else none

/-! ## Texts -/

/-- The character that a backslash and a letter stand for. -/
def simpleEscape? (c : Char) : Option Char :=
  if c = '"' ∨ c = '\\' ∨ c = '/' then some c
  else if c = 'b' then some '\x08'
  else if c = 'f' then some '\x0c'
  else if c = 'n' then some '\n'
  else if c = 'r' then some '\r'
  else if c = 't' then some '\t'
  else none

/-- The UTF-16 unit of four hexadecimal digits. -/
def unit? (a b c d : Point) : Option Nat := do
  let digits ← [a, b, c, d].mapM Point.char?
  Hexadecimal.value? digits

/-- The point of a unit. -/
def ofUnit (n : Nat) : Point :=
  if h : 0xD800 ≤ n ∧ n ≤ 0xDFFF then .half ⟨n, h.1, h.2⟩ else .char (Char.ofNat n)

/-- The point of two units that make a pair. -/
def ofPair (high low : Nat) : Point :=
  .char (Char.ofNat (0x10000 + (high - 0xD800) * 1024 + (low - 0xDC00)))

/-- Whether a unit opens a pair. -/
def isHigh (n : Nat) : Bool := 0xD800 ≤ n && n ≤ 0xDBFF

/-- Whether a unit closes a pair. -/
def isLow (n : Nat) : Bool := 0xDC00 ≤ n && n ≤ 0xDFFF

/-- The point of a unit that opens a pair, joined with the unit of the next escape if that one
closes the pair. -/
def joined (high : Nat) (s : List Point) : Except Stop (Point × NoMore s) :=
  match s with
  | .char '\\' :: .char 'u' :: a :: b :: c :: d :: x :: rest =>
    match unit? a b c d with
    | none =>
      .error (.problem .brokenUnicodeEscape (.char 'u' :: a :: b :: c :: d :: x :: rest))
    | some low =>
      if isLow low then .ok (ofPair high low, ⟨x :: rest, by simp only [List.length_cons]; omega⟩)
      else .ok (ofUnit high, ⟨_, Nat.le_refl _⟩)
  | s => .ok (ofUnit high, ⟨s, Nat.le_refl _⟩)

/-- The point of an escape by unit, of which the `u` has been read. Something has to follow the
four digits. -/
def unicodeEscape (s : List Point) : Except Stop (Point × NoMore s) :=
  match s with
  | a :: b :: c :: d :: x :: rest =>
    match unit? a b c d with
    | none =>
      .error (.problem .brokenUnicodeEscape (.char 'u' :: a :: b :: c :: d :: x :: rest))
    | some n =>
      if isHigh n then do
        let (c, ⟨rest, h⟩) ← joined n (x :: rest)
        .ok (c, ⟨rest, by simp only [List.length_cons] at h ⊢; omega⟩)
      else .ok (ofUnit n, ⟨x :: rest, by simp only [List.length_cons]; omega⟩)
  | s => .error (.problem .brokenUnicodeEscape (.char 'u' :: s))

/-- The point of an escape, of which the backslash has been read. -/
def escape? (opening s : List Point) : Except Stop (Point × NoMore s) :=
  match s with
  | [] => .error (.problem .unterminatedText opening)
  | .char 'u' :: rest => do
    let (c, ⟨rest, h⟩) ← unicodeEscape rest
    .ok (c, ⟨rest, by simp only [List.length_cons]; omega⟩)
  | p :: rest =>
    match p.char?.bind simpleEscape? with
    | some x => .ok (.char x, ⟨rest, by simp only [List.length_cons]; omega⟩)
    | none => .error (.problem .unknownEscape (.char '\\' :: p :: rest))

/-- The text whose opening quote has been read, and what follows its closing quote. The points
read so far are held last one first. -/
def textFrom (opening read s : List Point) : Except Stop (Wide × Less s) :=
  match s with
  | [] => .error (.problem .unterminatedText opening)
  | p :: rest =>
    if p = .char '"' then
      .ok (Wide.ofPoints read.reverse, ⟨rest, by simp only [List.length_cons]; omega⟩)
    else if p = .char '\\' then
      match escape? opening rest with
      | .error e => .error e
      | .ok (x, ⟨rest, h⟩) => do
        let (t, ⟨rest, h⟩) ← textFrom opening (x :: read) rest
        .ok (t, ⟨rest, by simp only [List.length_cons]; omega⟩)
    else if p.toNat < 0x20 then .error (.problem .controlCharacter (p :: rest))
    else do
      let (t, ⟨rest, h⟩) ← textFrom opening (p :: read) rest
      .ok (t, ⟨rest, by simp only [List.length_cons]; omega⟩)
termination_by s.length
decreasing_by all_goals simp only [List.length_cons]; omega

/-! ## Numbers -/

/-- The digits at the front of a text, and what follows them. -/
def digitRun (s : List Char) : List Char × List Char :=
  (s.takeWhile Decimal.isDigit, s.dropWhile Decimal.isDigit)

/-- The digits before a point or an exponent: a single zero, or a run that does not start with
one. -/
def wholeDigits (s : List Char) : List Char × List Char :=
  match s with
  | '0' :: rest => (['0'], rest)
  | s => digitRun s

/-- The digits after a point; without a digit the point is not taken. -/
def fractionDigits (s : List Char) : List Char × List Char :=
  match s with
  | '.' :: rest => if (digitRun rest).1 = [] then ([], s) else digitRun rest
  | s => ([], s)

/-- A sign that may be missing. -/
def signOf (s : List Char) : Bool × List Char :=
  match s with
  | '-' :: rest => (true, rest)
  | '+' :: rest => (false, rest)
  | s => (false, s)

/-- The exponent; without a digit its mark is not taken. -/
def exponentOf (s : List Char) : Option Int × List Char :=
  match s with
  | c :: rest =>
    if c = 'e' ∨ c = 'E' then
      let (negative, rest) := signOf rest
      let (digits, rest) := digitRun rest
      if digits = [] then (none, s)
      else
        let n : Int := Decimal.value digits
        (some (if negative then -n else n), rest)
    else (none, s)
  | s => (none, s)

theorem length_digitRun_le (s : List Char) : (digitRun s).2.length ≤ s.length :=
  (List.dropWhile_suffix _).length_le

theorem wholeDigits_append (s : List Char) : (wholeDigits s).1 ++ (wholeDigits s).2 = s := by
  unfold wholeDigits
  split
  · rfl
  · exact List.takeWhile_append_dropWhile

theorem length_fractionDigits_le (s : List Char) : (fractionDigits s).2.length ≤ s.length := by
  unfold fractionDigits
  split
  · rename_i rest
    split
    · exact Nat.le_refl _
    · have := length_digitRun_le rest
      simp only [List.length_cons]; omega
  · exact Nat.le_refl _

theorem length_signOf_le (s : List Char) : (signOf s).2.length ≤ s.length := by
  unfold signOf
  split <;> simp

theorem length_exponentOf_le (s : List Char) : (exponentOf s).2.length ≤ s.length := by
  unfold exponentOf
  split
  · rename_i c rest
    split
    · have hs := length_signOf_le rest
      have hd := length_digitRun_le (signOf rest).2
      simp only
      split
      · exact Nat.le_refl _
      · simp only [List.length_cons]; omega
    · exact Nat.le_refl _
  · exact Nat.le_refl _

/-- The number at the front of a text, of which a minus sign has been read or not. -/
def unsigned? (negative : Bool) (s : List Char) : Option (Except Stop Json × List Char) :=
  let (whole, rest) := wholeDigits s
  if whole = [] then none
  else
    let (fraction, rest) := fractionDigits rest
    let (exponent, rest) := exponentOf rest
    if fraction = [] ∧ exponent = none then
      if maxIntDigits < whole.length then some (.error .tooManyDigits, rest)
      else
        let n : Int := Decimal.value whole
        some (.ok (.int (if negative then -n else n)), rest)
    else
      let power := exponent.getD 0 - fraction.length
      some (.ok (.real (.ofDecimal negative (Decimal.value (whole ++ fraction)) power)), rest)

/-- The number at the front of a text. -/
def number? (s : List Char) : Option (Except Stop Json × List Char) :=
  match s with
  | '-' :: rest => unsigned? true rest
  | s => unsigned? false s

theorem length_lt_of_unsigned? {negative : Bool} {s rest : List Char} {v : Except Stop Json}
    (h : unsigned? negative s = some (v, rest)) : rest.length < s.length := by
  have hw := congrArg List.length (wholeDigits_append s)
  have hf := length_fractionDigits_le (wholeDigits s).2
  have he := length_exponentOf_le (fractionDigits (wholeDigits s).2).2
  simp only [List.length_append] at hw
  simp only [unsigned?] at h
  split at h
  · simp at h
  · rename_i hne
    have hpos := List.length_pos_iff.2 hne
    split at h
    · split at h <;> simp only [Option.some.injEq, Prod.mk.injEq] at h <;>
        obtain ⟨_, rfl⟩ := h <;> omega
    · simp only [Option.some.injEq, Prod.mk.injEq] at h
      obtain ⟨_, rfl⟩ := h
      omega

theorem length_lt_of_number? {s rest : List Char} {v : Except Stop Json}
    (h : number? s = some (v, rest)) : rest.length < s.length := by
  unfold number? at h
  split at h
  · have := length_lt_of_unsigned? h
    simp only [List.length_cons]; omega
  · exact length_lt_of_unsigned? h

/-! ## Names -/

/-- The values that are written as names. -/
def names : List (List Char × Json) :=
  [("null".toList, .null), ("true".toList, .bool true), ("false".toList, .bool false),
    ("NaN".toList, .real .nan), ("Infinity".toList, .real (.infinite false)),
    ("-Infinity".toList, .real (.infinite true))]

/-- The name at the front of a text. -/
def named? (s : List Char) : Option (Json × List Char) :=
  names.findSome? fun (name, v) => (after? name s).map (v, ·)

/-! ## Values -/

theorem length_lt_of_named? {s rest : List Char} {v : Json} (h : named? s = some (v, rest)) :
    rest.length < s.length := by
  obtain ⟨⟨name, w⟩, hmem, hw⟩ := List.exists_of_findSome?_eq_some h
  obtain ⟨r, hr, hvr⟩ := Option.map_eq_some_iff.1 hw
  simp only [Prod.mk.injEq] at hvr
  obtain ⟨_, rfl⟩ := hvr
  have hpos : ∀ f ∈ names.map Prod.fst, 0 < f.length := by decide
  have := hpos name (List.mem_map.2 ⟨_, hmem, rfl⟩)
  rw [eq_append_of_after? hr, List.length_append]
  omega

/-- Whether a character may stand in a number or a name. -/
def isTokenChar (c : Char) : Bool := c.isAlphanum || c = '+' || c = '-' || c = '.'

/-- The characters at the front of a text that may stand in a number or a name, and what follows
them. -/
def token : List Point → List Char × List Point
  | .char c :: rest =>
    if isTokenChar c then (c :: (token rest).1, (token rest).2) else ([], .char c :: rest)
  | s => ([], s)

theorem token_append (s : List Point) : Point.ofChars (token s).1 ++ (token s).2 = s := by
  fun_induction token s with
  | case1 c rest _ ih => exact congrArg (.char c :: ·) ih
  | case2 => rfl
  | case3 => rfl

/-- Less is left of a text if less is left of its token. -/
theorem length_ofChars_append_lt {s : List Point} {rest : List Char}
    (h : rest.length < (token s).1.length) :
    (Point.ofChars rest ++ (token s).2).length < s.length := by
  have whole := congrArg List.length (token_append s)
  rw [Point.ofChars, List.length_append, List.length_map] at whole ⊢
  omega

/-- A value that is neither text, list nor object. -/
def plain (s : List Point) : Except Stop (Json × Less s) :=
  match hn : named? (token s).1 with
  | some (v, rest) =>
    .ok (v, ⟨Point.ofChars rest ++ (token s).2,
      length_ofChars_append_lt (length_lt_of_named? hn)⟩)
  | none =>
    match hd : number? (token s).1 with
    | some (v, rest) =>
      v.map (·, ⟨Point.ofChars rest ++ (token s).2,
        length_ofChars_append_lt (length_lt_of_number? hd)⟩)
    | none => .error (.problem .expectingValue s)

/-- Fields with a further one behind them, which takes the place of an earlier one with its
name. -/
def putField (fields : List (Wide × Json)) (name : Wide) (v : Json) : List (Wide × Json) :=
  if fields.any (·.1 == name) then fields.map fun f => if f.1 == name then (name, v) else f
  else fields ++ [(name, v)]

/-- The name of a field and the colon after it, spaces included. -/
def fieldName (s : List Point) : Except Stop (Wide × Less s) :=
  match s with
  | [] => .error (.problem .expectingName [])
  | p :: rest =>
    if p = .char '"' then do
      let (name, ⟨s₁, h₁⟩) ← textFrom (p :: rest) [] rest
      match skip s₁ with
      | ⟨s₂, h₂⟩ =>
        match take? ':' s₂ with
        | some ⟨s₃, h₃⟩ => .ok (name, ⟨s₃, by simp only [List.length_cons]; omega⟩)
        | none => .error (.problem .expectingColon s₂)
    else .error (.problem .expectingName (p :: rest))

mutual

/-- The value at the front of a text, `depth` levels deep. -/
def value (depth : Nat) (s : List Point) : Except Stop (Json × Less s) :=
  match s with
  | [] => .error (.problem .expectingValue [])
  | p :: rest =>
    if p = .char '"' then do
      let (t, ⟨rest, h⟩) ← textFrom (p :: rest) [] rest
      .ok (.ofWide t, ⟨rest, by simp only [List.length_cons]; omega⟩)
    else if p = .char '[' then do
      let (items, ⟨rest, h⟩) ← listFrom depth rest
      .ok (.list items, ⟨rest, by simp only [List.length_cons]; omega⟩)
    else if p = .char '\x7b' then do
      let (fields, ⟨rest, h⟩) ← objectFrom depth rest
      .ok (.object fields, ⟨rest, by simp only [List.length_cons]; omega⟩)
    else plain (p :: rest)
termination_by (s.length, 0)
decreasing_by all_goals apply Prod.Lex.left; simp only [List.length_cons]; omega

/-- The items of a list whose opening bracket has been read, and what follows the closing one. -/
def listFrom (depth : Nat) (s : List Point) : Except Stop (List Json × NoMore s) :=
  if maxDepth ≤ depth then .error .tooDeep
  else
    match skip s with
    | ⟨s₁, h₁⟩ =>
      match take? ']' s₁ with
      | some ⟨rest, h₂⟩ => .ok ([], ⟨rest, by omega⟩)
      | none => do
        let (items, ⟨rest, h₂⟩) ← itemsFrom depth [] s₁
        .ok (items, ⟨rest, by omega⟩)
termination_by (s.length, 2)
decreasing_by exact Prod.lex_def.2 (by simp only; omega)

/-- The items of a list from the next one on, and what follows the closing bracket. The items
read so far are held last one first. -/
def itemsFrom (depth : Nat) (read : List Json) (s : List Point) :
    Except Stop (List Json × Less s) :=
  match value (depth + 1) s with
  | .error e => .error e
  | .ok (v, ⟨s₁, h₁⟩) =>
    match skip s₁ with
    | ⟨s₂, h₂⟩ =>
      match take? ']' s₂ with
      | some ⟨rest, h₃⟩ => .ok ((v :: read).reverse, ⟨rest, by omega⟩)
      | none =>
        match take? ',' s₂ with
        | some ⟨s₃, h₃⟩ => do
          let (items, ⟨rest, h₄⟩) ← itemsFrom depth (v :: read) s₃
          .ok (items, ⟨rest, by omega⟩)
        | none => .error (.problem .expectingComma s₂)
termination_by (s.length, 1)
decreasing_by
  · exact Prod.Lex.right _ (by omega)
  · exact Prod.lex_def.2 (by simp only; omega)

/-- The fields of an object whose opening brace has been read, and what follows the closing
one. -/
def objectFrom (depth : Nat) (s : List Point) : Except Stop (List (Wide × Json) × NoMore s) :=
  if maxDepth ≤ depth then .error .tooDeep
  else
    match skip s with
    | ⟨s₁, h₁⟩ =>
      match take? '\x7d' s₁ with
      | some ⟨rest, h₂⟩ => .ok ([], ⟨rest, by omega⟩)
      | none => do
        let (fields, ⟨rest, h₂⟩) ← fieldsFrom depth [] s₁
        .ok (fields, ⟨rest, by omega⟩)
termination_by (s.length, 2)
decreasing_by exact Prod.lex_def.2 (by simp only; omega)

/-- The fields of an object from the next one on, and what follows the closing brace. -/
def fieldsFrom (depth : Nat) (read : List (Wide × Json)) (s : List Point) :
    Except Stop (List (Wide × Json) × Less s) :=
  match fieldName s with
  | .error e => .error e
  | .ok (name, ⟨s₁, h₁⟩) =>
    match value (depth + 1) s₁ with
    | .error e => .error e
    | .ok (v, ⟨s₂, h₂⟩) =>
      match skip s₂ with
      | ⟨s₃, h₃⟩ =>
        match take? '\x7d' s₃ with
        | some ⟨rest, h₄⟩ => .ok (putField read name v, ⟨rest, by omega⟩)
        | none =>
          match take? ',' s₃ with
          | some ⟨s₄, h₄⟩ => do
            let (fields, ⟨rest, h₅⟩) ← fieldsFrom depth (putField read name v) s₄
            .ok (fields, ⟨rest, by omega⟩)
          | none => .error (.problem .expectingComma s₃)
termination_by (s.length, 1)
decreasing_by all_goals exact Prod.lex_def.2 (by simp only; omega)

end

/-- The value that a text is. -/
def parse (s : List Point) : Except ReadError Json :=
  let read : Except Stop Json := do
    let (v, ⟨rest, _⟩) ← value 0 (skip s).val
    match (skip rest).val with
    | [] => .ok v
    | rest => .error (.problem .extraData rest)
  read.mapError (·.toError s.length)

end CertRenewal.Json
