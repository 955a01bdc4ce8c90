import TableShell.Text.Lowercase

/-!
# The order of texts

Texts are ordered by code points, and names by their lower-case forms.
-/

namespace TableShell.Text

/-- The lexicographic order of two texts by code points. -/
def compareChars : List Char → List Char → Ordering
  | [], [] => .eq
  | [], _ :: _ => .lt
  | _ :: _, [] => .gt
  | a :: as, b :: bs => (compare a.toNat b.toNat).then (compareChars as bs)

/-- The order of two strings by code points. -/
def compareStrings (a b : String) : Ordering :=
  compareChars a.toList b.toList

/-- The order of the lower-case forms of two strings. -/
def compareFolded (a b : String) : Ordering :=
  compareChars (lowerChars a.toList) (lowerChars b.toList)

/-- Sort by the lower-case form of a name; elements with the same form keep their order. -/
def sortByName {α : Type} (name : α → String) (xs : List α) : List α :=
  ((xs.map fun x => (lowerChars (name x).toList, x)).mergeSort
    fun a b => compareChars a.1 b.1 != .gt).map (·.2)

/-- Whether a name begins with a typed text when both are put into lower case. -/
def startsFolded (name typed : String) : Bool :=
  (lowerChars typed.toList).isPrefixOf (lowerChars name.toList)

end TableShell.Text
