import TableShell.Text.CodeRange
import TableShell.Text.LetterCaseTable

/-!
# Lower case

The full lower-case mapping of Unicode. Every character is mapped on its own, with two
exceptions to one small letter per capital: the dotted capital I becomes an `i` with a combining
dot, and a capital sigma becomes the final sigma `ς` where it ends a word.
-/

namespace TableShell.Text

/-- Whether a character takes part in case, as a small, capital or title letter. -/
def isCased (c : Char) : Bool :=
  CodeRanges.covers casedRanges c.toNat

/-- Whether a character is passed over when the neighbours of a sigma are looked at. -/
def isCaseIgnorable (c : Char) : Bool :=
  CodeRanges.covers caseIgnorableRanges c.toNat

/-- The small letter of a code point found in a table of capital runs, or the code point itself. -/
def lowerIn : List (Nat × Nat × Nat × Int) → Nat → Nat
  | [], n => n
  | (first, last, step, shift) :: rest, n =>
    if n < first then n
    else if n ≤ last && (n - first) % step == 0 then (n + shift).toNat
    else lowerIn rest n

/-- The lower-case mapping of a single character, outside any word. -/
def lowerChar (c : Char) : List Char :=
  if c.toNat < 0x80 then [c.toLower]
  else if c == 'İ' then ['i', '\u0307']
  else [.ofNat (lowerIn capitalRuns c.toNat)]

/-- Whether the first character that is not passed over is a cased one. -/
def beginsCased (cs : List Char) : Bool :=
  match cs.dropWhile isCaseIgnorable with
  | [] => false
  | c :: _ => isCased c

/-- The lower-case mapping of a text that follows the characters `before`, given from last to
first: a capital sigma is final when a cased character precedes it and none follows. -/
def lowerAfter : (before text : List Char) → List Char
  | _, [] => []
  | before, c :: cs =>
    let small :=
      if c == 'Σ' then
        if beginsCased before && !beginsCased cs then ['ς'] else ['σ']
      else lowerChar c
    small ++ lowerAfter (c :: before) cs

/-- The lower-case form of a text. -/
def lowerChars (cs : List Char) : List Char :=
  lowerAfter [] cs

/-- The lower-case form of a string. -/
def lowercase (s : String) : String :=
  .ofList (lowerChars s.toList)

end TableShell.Text
