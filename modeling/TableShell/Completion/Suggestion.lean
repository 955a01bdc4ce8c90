import TableShell.Completion.Basic

/-!
# Suggestions

What is shown behind a line before it is typed: the line of the history that continues it best, or
else the rest of the first candidate for its last word. A suggestion is made only at the end of a
line.
-/

namespace TableShell

/-- Where a suggestion comes from. -/
inductive SuggestionSource where
  | history
  | context
  deriving DecidableEq, Repr

/-- A suggestion for a line. -/
structure Suggestion where
  /-- The text shown behind the cursor. -/
  ghost : String
  /-- The line after the suggestion is taken up. -/
  accepted : String
  source : SuggestionSource
  deriving DecidableEq, Repr

namespace Suggester

/-- What is shown for a line of the history: its rest if it begins with what is typed, else an
arrow and the whole line. -/
def ghostOf (typed hit : String) : String :=
  match Text.afterStart? typed.toList hit.toList with
  | some rest => .ofList rest
  | none => " → " ++ hit

/-- The best line of the history. -/
def historySuggestion? (s : Suggester) (line : String) : Option Suggestion :=
  if line.length < s.options.minFrequencyPrefix then none
  else
    ((s.sources.continuations line s.options.minSubstringPrefix).head?).map fun hit =>
      { ghost := ghostOf line hit, accepted := hit, source := .history }

/-- The rest of the first candidate for the word at the end of the line. Outside of pipelines
something has to be typed of the word. -/
def contextSuggestion (s : Suggester) (c : Context) (line : String) :
    Except ContextError (Option Suggestion) := do
  let completion := s.candidatesIn c line.utf8ByteSize
  match completion.best? with
  | none => return none
  | some candidate =>
    let (head, typed) ← ContextError.offBoundary.unless
      (Text.cutAtByte? completion.replaceFrom line.toList)
    let ghost := candidate.toList.drop typed.length
    if (typed.isEmpty && !c.isPiped) || ghost.isEmpty then return none
    else
      return some
        { ghost := .ofList ghost, accepted := .ofList head ++ candidate, source := .context }

/-- The suggestion for a line with the cursor at a byte. -/
def suggest (s : Suggester) (line : String) (cursor : Nat) :
    Except ContextError (Option Suggestion) :=
  if cursor != line.utf8ByteSize || Text.isBlankText line then .ok none
  else
    match s.historySuggestion? line with
    | some suggestion => .ok (some suggestion)
    | none => do
      let context ← Context.parse s.grammar line cursor
      s.contextSuggestion context line

end Suggester

end TableShell
