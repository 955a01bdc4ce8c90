import TableShell.StableSort.Insertion
import TableShell.StableSort.Merging

/-!
# Sorting short lists

The halves of a short list are sorted by insertion and merged from both ends. In halves of at least
four elements the first four are sorted as two pairs whose ends are compared.
-/

namespace TableShell

variable {α : Type}

/-- The greatest number of elements that are sorted as halves. -/
def shortLength : Nat := 32

/-- Two elements in order. -/
def sortTwo (below : α → α → Bool) (x y : α) : α × α :=
  if below y x then (y, x) else (x, y)

/-- Four elements in order, of which two stand between the others in an order to be found. -/
def sortInner (below : α → α → Bool) (least x y greatest : α) : List α :=
  let (x, y) := sortTwo below x y
  [least, x, y, greatest]

/-- Four elements in order, given as two sorted pairs. Comparing the ends of the pairs gives the
least and the greatest element. -/
def joinPairs (below : α → α → Bool) (a b c d : α) : List α :=
  match below c a, below d b with
  | false, false => sortInner below a b c d
  | false, true => sortInner below a c d b
  | true, false => sortInner below c a b d
  | true, true => sortInner below c a d b

/-- Four elements in order. -/
def sortFour (below : α → α → Bool) (w x y z : α) : List α :=
  let (a, b) := sortTwo below w x
  let (c, d) := sortTwo below y z
  joinPairs below a b c d

/-- Sort a half, with its first four elements as two pairs if `byPairs` says so. -/
def sortHalf (below : α → α → Bool) (byPairs : Bool) : List α → List α
  | w :: x :: y :: z :: rest =>
    if byPairs then insertAll below (sortFour below w x y z) rest
    else insertionSort below (w :: x :: y :: z :: rest)
  | xs => insertionSort below xs

/-- Sort a short list. -/
def sortShort (below : α → α → Bool) (xs : List α) : List α :=
  let middle := xs.length / 2
  let byPairs : Bool := 8 ≤ xs.length
  mergeFromEnds below (sortHalf below byPairs (xs.take middle))
    (sortHalf below byPairs (xs.drop middle))

/-! ### Nothing is lost -/

/-- Putting two elements in order keeps them, whatever follows. -/
theorem sortTwo_perm (below : α → α → Bool) (x y : α) (rest : List α) :
    ((sortTwo below x y).1 :: (sortTwo below x y).2 :: rest).Perm (x :: y :: rest) := by
  rw [sortTwo]
  split
  · exact .swap x y rest
  · exact .refl _

/-- Putting the two inner ones of four elements in order keeps all four. -/
theorem sortInner_perm (below : α → α → Bool) (least x y greatest : α) :
    (sortInner below least x y greatest).Perm [least, x, y, greatest] :=
  (sortTwo_perm below x y [greatest]).cons least

/-- Joining two pairs keeps their elements. -/
theorem joinPairs_perm (below : α → α → Bool) (a b c d : α) :
    (joinPairs below a b c d).Perm [a, b, c, d] := by
  have last_first : [c, d, b].Perm [b, c, d] :=
    ((List.Perm.swap b d []).cons c).trans (.swap b c [d])
  rw [joinPairs]
  split <;> refine (sortInner_perm below _ _ _ _).trans ?_
  · exact .refl _
  · exact last_first.cons a
  · exact (List.Perm.swap a c [b, d]).trans ((List.Perm.swap b c [d]).cons a)
  · exact (List.Perm.swap a c [d, b]).trans (last_first.cons a)

/-- Putting four elements in order keeps them. -/
theorem sortFour_perm (below : α → α → Bool) (w x y z : α) :
    (sortFour below w x y z).Perm [w, x, y, z] :=
  (joinPairs_perm below _ _ _ _).trans <|
    (sortTwo_perm below w x _).trans (((sortTwo_perm below y z []).cons x).cons w)

/-- Sorting a half keeps its elements. -/
theorem sortHalf_perm (below : α → α → Bool) (byPairs : Bool) (xs : List α) :
    (sortHalf below byPairs xs).Perm xs := by
  fun_cases sortHalf below byPairs xs with
  | case1 w x y z rest =>
    exact (insertAll_perm below _ rest).trans ((sortFour_perm below w x y z).append_right rest)
  | case2 => exact insertionSort_perm below _
  | case3 => exact insertionSort_perm below _

/-- Sorting a short list keeps its elements. -/
theorem sortShort_perm (below : α → α → Bool) (xs : List α) : (sortShort below xs).Perm xs := by
  refine (mergeFromEnds_perm below _ _).trans ?_
  refine ((sortHalf_perm below _ _).append (sortHalf_perm below _ _)).trans ?_
  rw [List.take_append_drop]

end TableShell
