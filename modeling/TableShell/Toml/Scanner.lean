import TableShell.Text.Search

/-!
# Scanning

A scanner reads something from the front of a text and leaves the rest, or refuses the text.
-/

namespace TableShell

/-- A scanner for values of a type. -/
abbrev Scanner := StateT (List Char) Option

namespace Scanner

/-- The next character, which is not read. -/
def peek? : Scanner (Option Char) := do
  return (← get).head?

/-- Read a character that satisfies a condition. -/
def satisfying (p : Char → Bool) : Scanner Char := do
  match ← get with
  | c :: rest => if p c then set rest; return c else failure
  | [] => failure

/-- Read a given character. -/
def char (c : Char) : Scanner Unit := do
  let _ ← satisfying (· == c)

/-- Read a given text. -/
def exactly (text : String) : Scanner Unit := do
  match Text.afterStart? text.toList (← get) with
  | some rest => set rest
  | none => failure

/-- Read as many characters as satisfy a condition. -/
def runOf (p : Char → Bool) : Scanner (List Char) := do
  let cs ← get
  set (cs.dropWhile p)
  return cs.takeWhile p

/-- Read at least one character, and as many as satisfy a condition. -/
def runOf1 (p : Char → Bool) : Scanner (List Char) := do
  let cs ← runOf p
  if cs.isEmpty then failure else return cs

/-- Read a number of characters that satisfy a condition. -/
def times (n : Nat) (p : Char → Bool) : Scanner (List Char) := do
  let cs ← get
  let taken := cs.take n
  if taken.length == n && taken.all p then set (cs.drop n); return taken
  else failure

/-- Read something if it is there. -/
def optionally {α : Type} (s : Scanner α) : Scanner (Option α) :=
  (do return some (← s)) <|> pure none

/-- Read something at most `n` times. -/
def upTo {α : Type} (s : Scanner α) : (n : Nat) → Scanner (List α)
  | 0 => pure []
  | n + 1 => do
    match ← optionally s with
    | none => return []
    | some a => return a :: (← upTo s n)

/-- Read something that is not empty as often as it is there. No text holds it more often than it
holds characters. -/
def many {α : Type} (s : Scanner α) : Scanner (List α) := do
  upTo s (← get).length

/-- Read something at least once, with a separator in between. -/
def separated {α : Type} (s : Scanner α) (separator : Scanner Unit) : Scanner (List α) := do
  let first ← s
  let more ← many do
    separator
    s
  return first :: more

/-- Read all of a text. -/
def all? {α : Type} (s : Scanner α) (text : List Char) : Option α :=
  match StateT.run s text with
  | some (a, []) => some a
  | _ => none

end Scanner

end TableShell
