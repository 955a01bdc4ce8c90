/-!
# ASCII case

Names of commands, filters and columns are matched without regard to the case of the letters
`A`–`Z`. Letters outside ASCII match themselves only.
-/

namespace TableShell.Text

/-- The string with the letters `A`–`Z` made small and every other character kept. -/
def asciiLower (s : String) : String :=
  .ofList (s.toList.map Char.toLower)

/-- Whether two strings differ at most in the case of ASCII letters. -/
def sameIgnoringCase (a b : String) : Bool :=
  a.toList.map Char.toLower == b.toList.map Char.toLower

end TableShell.Text
