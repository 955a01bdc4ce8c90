/-!
# White space

A *blank* is a character with the Unicode property `White_Space`. This module tests for blanks,
trims them from the ends of a text and cuts a text into its words, the maximal runs without a
blank.
-/

namespace TableShell.Text

/-- The characters with the property `White_Space`: the ASCII controls from tab to carriage
return, the space, and the blanks of the Latin-1, Ogham, punctuation and ideographic blocks. -/
def isBlank (c : Char) : Bool :=
  let n := c.toNat
  (0x09 ≤ n && n ≤ 0x0D) || n == 0x20 || n == 0x85 || n == 0xA0 || n == 0x1680 ||
    (0x2000 ≤ n && n ≤ 0x200A) || n == 0x2028 || n == 0x2029 || n == 0x202F || n == 0x205F ||
    n == 0x3000

/-! ### Trimming -/

/-- The text from its first character that is not blank. -/
def trimStartChars (cs : List Char) : List Char :=
  cs.dropWhile isBlank

/-- The text up to its last character that is not blank. -/
def trimEndChars (cs : List Char) : List Char :=
  (cs.reverse.dropWhile isBlank).reverse

/-- The text without the blanks at both of its ends. -/
def trimChars (cs : List Char) : List Char :=
  trimEndChars (trimStartChars cs)

/-- The string from its first character that is not blank. -/
def trimStart (s : String) : String :=
  .ofList (trimStartChars s.toList)

/-- The string up to its last character that is not blank. -/
def trimEnd (s : String) : String :=
  .ofList (trimEndChars s.toList)

/-- The string without the blanks at both of its ends. -/
def trim (s : String) : String :=
  .ofList (trimChars s.toList)

/-- Whether a string holds nothing but blanks. -/
def isBlankText (s : String) : Bool :=
  s.toList.all isBlank

/-! ### Words -/

/-- The maximal runs of characters that are not blank, in order. -/
def wordsChars (cs : List Char) : List (List Char) :=
  (cs.splitOnP isBlank).filter fun w => !w.isEmpty

/-- The words of a string, in order. -/
def words (s : String) : List String :=
  (wordsChars s.toList).map .ofList

end TableShell.Text
