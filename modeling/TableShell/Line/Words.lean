import TableShell.Text.Blank

/-!
# The words of a line

A line consists of stages separated by bars, and a stage of words separated by blanks. Between two
double quotes, bars and blanks are ordinary characters; a quote that is never closed reaches to
the end of the line. A quote belongs to the word it stands in, so that a pair of quotes makes an
empty word.

A line that is run is cut into stages first and every stage into words then, without their quotes.
A line that is being typed is read in one go, and its words keep their quotes. The three scanners
go through a text character by character, each with a state of its own.
-/

namespace TableShell.Line

/-! ### The stages of a line that is run -/

/-- The stages of a text, as far as it has been read. -/
structure StageScan where
  /-- The stages that a bar has ended. -/
  ended : List (List Char) := []
  /-- The stage that is being read. -/
  current : List Char := []
  /-- Whether a quote is open. -/
  quoted : Bool := false
  deriving DecidableEq, Repr

/-- Read a character. -/
def StageScan.step (s : StageScan) (c : Char) : StageScan :=
  if c == '"' then { s with current := s.current ++ [c], quoted := !s.quoted }
  else if c == '|' && !s.quoted then { s with ended := s.ended ++ [s.current], current := [] }
  else { s with current := s.current ++ [c] }

/-- The stages of a text with the blanks around them. There is at least one. -/
def rawStages (text : List Char) : List (List Char) :=
  let s := text.foldl StageScan.step {}
  s.ended ++ [s.current]

/-- The stages of a line, without the blanks around them. -/
def stages (line : String) : List String :=
  (rawStages line.toList).map fun stage => .ofList (Text.trimChars stage)

/-! ### The words of a stage that is run -/

/-- The words of a stage, as far as it has been read. -/
structure WordScan where
  /-- The words that a blank has ended. -/
  ended : List String := []
  /-- The word that is being read, without its quotes. -/
  current : List Char := []
  /-- Whether a quote is open. -/
  quoted : Bool := false
  /-- Whether a word has begun. It may be empty still. -/
  started : Bool := false
  deriving DecidableEq, Repr

namespace WordScan

/-- End the word that has begun, if there is one. -/
def endWord (s : WordScan) : WordScan :=
  if s.started then
    { s with ended := s.ended ++ [.ofList s.current], current := [], started := false }
  else s

/-- Read a character. -/
def step (s : WordScan) (c : Char) : WordScan :=
  if c == '"' then { s with quoted := !s.quoted, started := true }
  else if Text.isBlank c && !s.quoted then s.endWord
  else { s with current := s.current ++ [c], started := true }

end WordScan

/-- The words of a stage. -/
def words (stage : String) : List String :=
  (stage.toList.foldl WordScan.step {}).endWord.ended

/-! ### The tokens of a line that is typed -/

/-- The tokens of a text, as far as it has been read. -/
structure TokenScan where
  /-- The words that have been ended, with their quotes, and the bars. -/
  ended : List String := []
  /-- The word that is being read, with its quotes. -/
  current : List Char := []
  /-- The byte at which the open quote stands. -/
  quote? : Option Nat := none
  /-- The number of bytes that have been read. -/
  offset : Nat := 0
  deriving DecidableEq, Repr

namespace TokenScan

/-- End the word that is being read, if it has a character. -/
def endWord (s : TokenScan) : TokenScan :=
  if s.current.isEmpty then s
  else { s with ended := s.ended ++ [.ofList s.current], current := [] }

/-- Take in a character at the current offset. -/
def take (s : TokenScan) (c : Char) : TokenScan :=
  if c == '"' then
    { s with
      current := s.current ++ [c]
      quote? := if s.quote?.isSome then none else some s.offset }
  else if c == '|' && s.quote?.isNone then
    { s.endWord with ended := s.endWord.ended ++ ["|"] }
  else if Text.isBlank c && s.quote?.isNone then s.endWord
  else { s with current := s.current ++ [c] }

/-- Read a character. -/
def step (s : TokenScan) (c : Char) : TokenScan :=
  { s.take c with offset := s.offset + c.utf8Size }

end TokenScan

/-- Read a text that is being typed. -/
def scan (text : List Char) : TokenScan :=
  text.foldl TokenScan.step {}

/-- The words of a text with their quotes, and the bars between its stages. -/
def tokens (text : List Char) : List String :=
  (scan text).endWord.ended

/-- Whether a text ends within a word. -/
def endsInWord (text : List Char) : Bool :=
  !(scan text).current.isEmpty

/-- The tokens of a text without the word that is being typed. -/
def completedTokens (text : List Char) : List String :=
  if endsInWord text then (tokens text).dropLast else tokens text

/-- The byte at which a quote stands that is not closed. -/
def openQuote? (text : List Char) : Option Nat :=
  (scan text).quote?

end TableShell.Line
