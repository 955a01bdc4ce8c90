import TableShell.Text.CharWidth

/-!
# Display width

The number of terminal columns that a text takes. A text is as wide as its characters together,
except that some sequences share their columns: a lam with its alef, the letters of a ligature, the
parts of one emoji. A line feed and a carriage return before it take none, and other controls take
one.

The text is read from its end, because the width of a character depends on what follows it. What
has been read is remembered as a `Follower`: the `Head` that the rest begins with and the selectors
in front of it.
-/

namespace TableShell.Text

/-! ### What has been read -/

/-- What the measured rest of a text begins with, as far as the width of the character before it
depends on it. `joined` says that a joiner has been read in front of it. -/
inductive Head where
  /-- Nothing that matters. -/
  | plain
  | lineFeed
  /-- An Arabic alef, with the marks in front of it. -/
  | alef
  | hebrewLamed (joined : Bool)
  | bugineseYa (joined : Bool)
  /-- A Buginese vowel sign i in front of a joined ya. -/
  | bugineseVowelYa
  | tifinaghConsonant (joined : Bool)
  /-- A Tifinagh consonant behind the joiner of its own script. -/
  | tifinaghJoinedConsonant
  /-- One of the last two Lisu tone letters. -/
  | lisuTone
  | turkicI (joined : Bool)
  /-- A Khmer letter that can stand below another one. -/
  | khmerLetter
  | skinTone
  /-- An emoji whose two columns are counted. -/
  | emoji
  /-- One letter of a flag. -/
  | regional
  /-- More letters of flags. -/
  | regionals
  /-- A joiner in front of an emoji. -/
  | joinedEmoji
  /-- The frame of a key in front of a joined emoji. -/
  | joinedKeycap
  /-- One letter of a flag in front of a joined emoji. -/
  | joinedRegional
  /-- An even number of letters of flags in front of a joined emoji. -/
  | joinedEvenRegionals
  /-- An odd number, three or more, of letters of flags in front of a joined emoji. -/
  | joinedOddRegionals
  /-- The end of a tag sequence in front of a joined emoji. -/
  | tagEnd
  /-- The end of a tag sequence with letters in front of it. -/
  | tagLetters (count : Nat)
  /-- The end of a tag sequence with letters, and digits in front of them. -/
  | tagDigits (count : Nat)
  deriving DecidableEq, Repr

/-- Whether this is the second part of a ligature, from which the invisible marks in front of it do
not separate the first part. -/
def Head.ligates : Head → Bool
  | .hebrewLamed _ | .bugineseYa _ | .bugineseVowelYa | .tifinaghConsonant _
  | .tifinaghJoinedConsonant | .lisuTone | .turkicI _ | .khmerLetter => true
  | _ => false

/-- The second part of a ligature with a joiner in front of it. -/
def Head.joined : Head → Head
  | .hebrewLamed _ => .hebrewLamed true
  | .bugineseYa _ => .bugineseYa true
  | .tifinaghConsonant _ => .tifinaghConsonant true
  | .turkicI _ => .turkicI true
  | head => head

/-- Whether an emoji in front of this is joined to the next emoji. -/
def Head.joinsEmoji (head : Head) : Bool :=
  head == .joinedEmoji || head == .joinedKeycap

/-- Whether letters are joined to this across selectors. -/
def Head.joinsLetters (head : Head) : Bool :=
  head == .alef || head.ligates

/-- What the measured rest of a text begins with, and the selectors of a form in front of it. -/
structure Follower where
  head : Head
  emojiForm : Bool := false
  textForm : Bool := false
  deriving DecidableEq, Repr

/-- A rest that no selector stands in front of. -/
def Head.bare (head : Head) : Follower :=
  { head }

/-- The rest with a selector of the emoji form in front of it: only what letters or emoji are
joined to is remembered behind it. -/
def Follower.inEmojiForm (f : Follower) : Follower :=
  if f.head.joinsLetters then { f with emojiForm := true }
  else if f.head.joinsEmoji then { f with emojiForm := true }
  else { head := .plain, emojiForm := true }

/-- The rest with a selector of the text form in front of it: only what letters are joined to is
remembered behind it. -/
def Follower.inTextForm (f : Follower) : Follower :=
  if f.head.joinsLetters then { f with textForm := true }
  else { head := .plain, textForm := true }

/-- The rest in front of a character that does not obey the selector of the emoji form. -/
def Follower.withoutEmojiForm (f : Follower) : Follower :=
  if !f.emojiForm then f
  else if f.head.joinsLetters then { f with emojiForm := false }
  else { head := .plain }

/-! ### Steps -/

/-- What a character above the controls is to the character before it. -/
def headOf (c : Char) : Head :=
  if c.toNat == 0x5DC then .hebrewLamed false
  else if CodeRanges.covers alefRanges c.toNat then .alef
  else if CodeRanges.covers khmerSubscriptRanges c.toNat then .khmerLetter
  else if c.toNat == 0x1A10 then .bugineseYa false
  else if CodeRanges.covers tifinaghConsonantRanges c.toNat then .tifinaghConsonant false
  else if c.toNat == 0xA4FC || c.toNat == 0xA4FD then .lisuTone
  else if c.toNat == 0x10C03 then .turkicI false
  else if isRegionalIndicator c then .regional
  else if isEmojiModifier c then .skinTone
  else if isShownAsEmoji c then .emoji
  else .plain

/-- The columns that a letter or mark adds when it is joined to the rest, and what it is to the
character before it; nothing when it is not joined. -/
def joinLetter? (c : Char) (head : Head) : Option (Int × Head) :=
  if head.ligates && c == zeroWidthJoiner then some (0, head.joined)
  else if head.ligates && CodeRanges.covers invisibleMarkRanges c.toNat then some (0, head)
  else match head with
  | .alef =>
    if CodeRanges.covers lamRanges c.toNat then some (0, .plain)
    else if isTransparentMark c then some (0, .alef)
    else none
  | .hebrewLamed true => if c == '\u05D0' then some (0, .plain) else none
  | .khmerLetter => if c == '\u17D2' then some (-1, .plain) else none
  | .bugineseYa true => if c == '\u1A17' then some (0, .bugineseVowelYa) else none
  | .bugineseVowelYa => if c == '\u1A15' then some (0, .plain) else none
  | .tifinaghConsonant joined =>
    if c == '\u2D7F' then some (1, .tifinaghJoinedConsonant)
    else if joined && CodeRanges.covers tifinaghConsonantRanges c.toNat then some (0, .plain)
    else none
  | .tifinaghJoinedConsonant =>
    if CodeRanges.covers tifinaghConsonantRanges c.toNat then some (-1, .plain) else none
  | .lisuTone => if 0xA4F8 ≤ c.toNat && c.toNat ≤ 0xA4FB then some (0, .plain) else none
  | .turkicI true => if c.toNat == 0x10C32 then some (0, .plain) else none
  | _ => none

/-- Whether a character is a small letter in a tag sequence. -/
def isTagLetter (c : Char) : Bool :=
  0xE0061 ≤ c.toNat && c.toNat ≤ 0xE007A

/-- Whether a character is a digit in a tag sequence. -/
def isTagDigit (c : Char) : Bool :=
  0xE0030 ≤ c.toNat && c.toNat ≤ 0xE0039

/-- The tag sequence in front of a joined emoji, one tag longer: up to six letters, and up to
three digits in front of at most four letters. -/
def extendTag? (c : Char) : Head → Option Head
  | .tagEnd =>
    if isTagLetter c then some (.tagLetters 1)
    else if isTagDigit c then some (.tagDigits 1)
    else none
  | .tagLetters n =>
    if isTagLetter c && n < 6 then some (.tagLetters (n + 1))
    else if isTagDigit c && n ≤ 4 then some (.tagDigits 1)
    else none
  | .tagDigits n => if isTagDigit c && n < 3 then some (.tagDigits (n + 1)) else none
  | _ => none

/-- Whether a black flag in front of these tags is one emoji with them. -/
def Head.isFlagTag : Head → Bool
  | .tagLetters n => 3 ≤ n
  | .tagDigits n => n == 3
  | _ => false

/-- The columns that a character adds when it is one emoji with the rest, and what it is to the
character before it; nothing when it is not. -/
def joinEmoji? (c : Char) (head : Head) : Option (Int × Head) :=
  match head with
  | .skinTone =>
    if CodeRanges.covers emojiModifierBaseRanges c.toNat then some (0, .emoji)
    else if c == zeroWidthJoiner then some (0, .joinedEmoji)
    else none
  | .regional => if isRegionalIndicator c then some (1, .regionals) else none
  | .regionals =>
    if isRegionalIndicator c then some (1, .regionals)
    else if c == zeroWidthJoiner then some (0, .joinedEmoji)
    else none
  | .emoji => if c == zeroWidthJoiner then some (0, .joinedEmoji) else none
  | .joinedEmoji =>
    if c == '\u20E3' then some (0, .joinedKeycap)
    else if isRegionalIndicator c then some (1, .joinedRegional)
    else if isEmojiModifier c then some (0, .skinTone)
    else if c.toNat == 0xE007F then some (0, .tagEnd)
    else if isShownAsEmoji c then some (0, .emoji)
    else none
  | .joinedRegional | .joinedOddRegionals =>
    if isRegionalIndicator c then some (-1, .joinedEvenRegionals) else none
  | .joinedEvenRegionals =>
    if isRegionalIndicator c then some (3, .joinedOddRegionals)
    else if c == zeroWidthJoiner then some (0, .joinedEmoji)
    else none
  | head =>
    if head.isFlagTag && c.toNat == 0x1F3F4 then some (0, .emoji)
    else (extendTag? c head).map fun longer => (0, longer)

/-- The columns that a character adds in front of a rest, and what it is to the character before
it. A character that obeys the selector of the emoji form takes two columns, or none when it is
joined to an emoji that has them. -/
def widthBefore (c : Char) (follower : Follower) : Int × Follower :=
  if follower.emojiForm && hasEmojiVariation c then
    (if follower.head.joinsEmoji then 0 else 2, Head.emoji.bare)
  else
    let follower := follower.withoutEmojiForm
    if c == '\n' then (0, Head.lineFeed.bare)
    else if c == '\r' && follower.head == .lineFeed then (0, Head.plain.bare)
    else if c.toNat ≤ 0xA0 then (1, Head.plain.bare)
    else if c == emojiSelector then (0, follower.inEmojiForm)
    else if c == textSelector then (0, follower.inTextForm)
    else if follower.textForm && isNarrowAsText c then (1, Head.plain.bare)
    else
      match (joinLetter? c follower.head).or (joinEmoji? c follower.head) with
      | some (columns, head) => (columns, head.bare)
      | none => (printedWidth c, (headOf c).bare)

/-! ### Texts -/

/-- The columns of a text together with what its first character is to one in front of it. -/
def measure : List Char → Int × Follower
  | [] => (0, Head.plain.bare)
  | c :: cs =>
    let (width, follower) := measure cs
    let (own, next) := widthBefore c follower
    (own + width, next)

/-- The columns of a text. -/
def widthChars (cs : List Char) : Nat :=
  (measure cs).1.toNat

/-- The columns of a string. -/
def displayWidth (s : String) : Nat :=
  widthChars s.toList

end TableShell.Text
