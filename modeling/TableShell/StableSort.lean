import TableShell.StableSort.Quick

/-!
# Stable sorting

Sorting that keeps the order of elements that are not strictly below each other. For an order there
is only one outcome. The outcome is determined also for relations that are no order, such as a
comparison of numbers some of which cannot be compared: short lists are sorted by insertion, and
long ones by runs, with pivots for what is not sorted yet. In every case the outcome is a
permutation of the list.
-/

namespace TableShell

variable {α : Type}

/-- The elements from the least to the greatest, earlier ones first among equals. -/
def stableSort (below : α → α → Bool) (xs : List α) : List α :=
  if xs.length ≤ 20 then insertionSort below xs
  else if xs.length ≤ 2 * shortLength then sortByRuns below none xs
  else sortByRuns below (some (sortByPivots below)) xs

/-- Sorting keeps the elements. -/
theorem stableSort_perm (below : α → α → Bool) (xs : List α) :
    (stableSort below xs).Perm xs := by
  rw [stableSort]
  split
  · exact insertionSort_perm below xs
  · split
    · exact sortByRuns_perm (by simp) xs
    · refine sortByRuns_perm ?_ xs
      intro f hf
      cases hf
      exact sortByPivots_perm below

end TableShell
