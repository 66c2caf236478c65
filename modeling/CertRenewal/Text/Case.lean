import CertRenewal.Text.CaseTable

/-
  Upper and lower case of a text by the full mappings of Unicode, in which a character may
  become several. One mapping looks at its surroundings: a capital sigma that ends a word
  becomes the final form, where a word is made of characters with case and the characters that
  are ignored between them.
-/

namespace CertRenewal.Text

namespace CaseRun

/-- Where a run sends a code point, if the code point belongs to it. -/
def image? (r : CaseRun) (n : Nat) : Option Nat :=
  if r.first ≤ n && n ≤ r.last && (n - r.first) % r.step == 0 then some (n + r.shift).toNat
  else none

end CaseRun

/-- Membership of a code point in a list of ranges. -/
def inRanges (ranges : List (Nat × Nat)) (n : Nat) : Bool :=
  ranges.any fun (first, last) => first ≤ n && n ≤ last

/-! ## Upper case -/

/-- The upper case of one character. -/
def upperChar (c : Char) : List Char :=
  if c.toNat < 128 then [c.toUpper]
  else match upperSequences.lookup c.toNat with
    | some codes => codes.map Char.ofNat
    | none => match upperRuns.findSome? (·.image? c.toNat) with
      | some n => [Char.ofNat n]
      | none => [c]

/-- The upper case of a text. -/
def upper (s : String) : String := String.ofList (s.toList.flatMap upperChar)

/-! ## Lower case -/

/-- The capital sigma, its lower case, and the form that ends a word. -/
def capitalSigma : Char := 'Σ'

/-- Whether a list of characters, read from a place outwards, meets one with case before one
without, the ignored ones apart. -/
def meetsCased (outwards : List Char) : Bool :=
  match outwards.dropWhile fun c => inRanges caseIgnorableRanges c.toNat with
  | [] => false
  | c :: _ => inRanges casedRanges c.toNat

/-- The lower case of one character, wherever it stands; the capital sigma apart. -/
def lowerChar (c : Char) : List Char :=
  if c.toNat < 128 then [c.toLower]
  else if c = 'İ' then ['i', '\u0307']
  else match lowerRuns.findSome? (·.image? c.toNat) with
    | some n => [Char.ofNat n]
    | none => [c]

/-- The lower case of what follows `before`, which is held last character first. -/
def lowerAfter (before : List Char) : List Char → List Char
  | [] => []
  | c :: rest =>
    let mapped :=
      if c = capitalSigma then
        if meetsCased before && !meetsCased rest then ['ς'] else ['σ']
      else lowerChar c
    mapped ++ lowerAfter (c :: before) rest

/-- The lower case of a text. -/
def lower (s : String) : String := String.ofList (lowerAfter [] s.toList)

/-! ## ASCII -/

/-- Equality of two texts up to the case of ASCII letters. -/
def equalIgnoringAsciiCase (s t : String) : Bool :=
  s.toList.map Char.toLower == t.toList.map Char.toLower

end CertRenewal.Text
