import TableShell.Text.CodeRange
import TableShell.Text.WidthTable

/-!
# Width of single characters

The number of terminal columns that a character takes on its own, and the classes of characters
whose width in a text depends on their neighbours: Arabic letters that are joined, letters that
ligate, and emoji.
-/

namespace TableShell.Text

/-! ### Columns -/

/-- Whether a character is an ASCII or Latin-1 control character. -/
def isControl (c : Char) : Bool :=
  c.toNat < 0x20 || (0x7F ≤ c.toNat && c.toNat < 0xA0)

/-- The columns of a character above the controls: none for marks and ignorable characters, two
for wide ones, three for the Khmer sign that stands for three letters. -/
def printedWidth (c : Char) : Nat :=
  if c.toNat == 0x17D8 then 3
  else if CodeRanges.covers zeroWidthRanges c.toNat then 0
  else if CodeRanges.covers wideRanges c.toNat then 2
  else 1

/-- The columns of a character on its own; a control character moves nothing. -/
def charWidth (c : Char) : Nat :=
  if isControl c then 0
  else if c.toNat < 0x7F then 1
  else printedWidth c

/-! ### Joined letters -/

/-- The Arabic letters alef, which a lam before them is joined with. -/
def alefRanges : CodeRanges :=
  [(0x622, 0x623), (0x625, 0x625), (0x627, 0x627), (0x671, 0x673), (0x675, 0x675),
    (0x773, 0x774), (0x870, 0x882)]

/-- The Arabic letters lam. -/
def lamRanges : CodeRanges :=
  [(0x644, 0x644), (0x6B5, 0x6B8), (0x76A, 0x76A), (0x8A6, 0x8A6), (0x8C7, 0x8C7)]

/-- The Khmer letters that are written below the letter before them after a coeng. -/
def khmerSubscriptRanges : CodeRanges :=
  [(0x1780, 0x1782), (0x1784, 0x1787), (0x1789, 0x178C), (0x178E, 0x1793), (0x1795, 0x1798),
    (0x179B, 0x179D), (0x17A0, 0x17A0), (0x17A2, 0x17A2), (0x17A7, 0x17A7), (0x17AB, 0x17AC),
    (0x17AF, 0x17AF)]

/-- The Tifinagh consonants, which a joiner makes biconsonants of. -/
def tifinaghConsonantRanges : CodeRanges :=
  [(0x2D31, 0x2D65), (0x2D6F, 0x2D6F)]

/-- Whether a character is a mark that stands between a lam and the alef it is joined with. -/
def isTransparentMark (c : Char) : Bool :=
  printedWidth c == 0 && !CodeRanges.covers joiningBarrierRanges c.toNat

/-- The marks without a shape of their own, which do not separate the parts of a ligature. -/
def invisibleMarkRanges : CodeRanges :=
  [(0x34F, 0x34F), (0x17B4, 0x17B5), (0x180B, 0x180D), (0x180F, 0x180F), (0x200D, 0x200D),
    (0xFE00, 0xFE0F), (0xE0100, 0xE01EF)]

/-! ### Emoji -/

/-- The joiner of emoji and of ligatures. -/
def zeroWidthJoiner : Char := '\u200D'

/-- The selector behind a character that asks for its form as text. -/
def textSelector : Char := '\uFE0E'

/-- The selector behind a character that asks for its form as an emoji. -/
def emojiSelector : Char := '\uFE0F'

/-- Whether a character is one of the five skin tones. -/
def isEmojiModifier (c : Char) : Bool :=
  0x1F3FB ≤ c.toNat && c.toNat ≤ 0x1F3FF

/-- Whether a character is one of the letters that make a flag in pairs. -/
def isRegionalIndicator (c : Char) : Bool :=
  0x1F1E6 ≤ c.toNat && c.toNat ≤ 0x1F1FF

/-- Whether a character is shown as an emoji without a selector. -/
def isShownAsEmoji (c : Char) : Bool :=
  CodeRanges.covers emojiPresentationRanges c.toNat

/-- Whether a character obeys a selector of its form. -/
def hasEmojiVariation (c : Char) : Bool :=
  CodeRanges.covers emojiVariationRanges c.toNat

/-- Whether a character becomes narrow when its form as text is asked for: the ideographs among
the emoji stay wide. -/
def isNarrowAsText (c : Char) : Bool :=
  hasEmojiVariation c && isShownAsEmoji c && !(0x1F200 ≤ c.toNat && c.toNat < 0x1F300)

end TableShell.Text
