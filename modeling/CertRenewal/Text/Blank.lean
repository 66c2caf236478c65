/-
  White space. Two sets are in use: the `White_Space` property of Unicode, which PEM bodies and
  numbers in settings go by, and the wider set of blanks that are trimmed off names, hosts and
  group lists, which adds the four information separators U+001C to U+001F. Of the latter only
  those of ASCII are blanks in content types. Trimming takes blanks off both ends and leaves
  those inside alone.
-/

namespace CertRenewal.Text

/-- Characters with the Unicode property `White_Space`. -/
def isWhiteSpace (c : Char) : Bool :=
  let n := c.toNat
  (9 ≤ n && n ≤ 13) || n == 0x20 || n == 0x85 || n == 0xA0 || n == 0x1680 ||
    (0x2000 ≤ n && n ≤ 0x200A) || n == 0x2028 || n == 0x2029 || n == 0x202F || n == 0x205F ||
    n == 0x3000

/-- White space and the information separators. -/
def isBlank (c : Char) : Bool :=
  isWhiteSpace c || (0x1C ≤ c.toNat && c.toNat ≤ 0x1F)

/-- The blanks of ASCII. -/
def isAsciiBlank (c : Char) : Bool := isBlank c && c.toNat < 128

/-- A list without the elements that `p` holds of at its two ends. -/
def trimList {α : Type} (p : α → Bool) (l : List α) : List α :=
  ((l.dropWhile p).reverse.dropWhile p).reverse

/-- A text without the blanks at its two ends. -/
def trim (s : String) : String := String.ofList (trimList isBlank s.toList)

/-- Blank through and through, or empty. -/
def isBlankText (s : String) : Bool := s.toList.all isBlank

@[simp] theorem toList_trim (s : String) : (trim s).toList = trimList isBlank s.toList := by
  simp [trim]

end CertRenewal.Text
