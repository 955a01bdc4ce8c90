/-!
# Sorting by insertion

Every element moves left past the elements that it is strictly below, starting with its neighbour,
so elements that are not strictly below each other keep their order. Sorted elements are kept from
the greatest to the least while others are inserted, because that is the order of the comparisons.
-/

namespace TableShell

variable {α : Type}

/-- Insert into a list that runs from the greatest element to the least: `x` goes behind the
elements at the front that it is strictly below. -/
def insertDescending (below : α → α → Bool) (x : α) : List α → List α
  | [] => [x]
  | y :: ys => if below x y then y :: insertDescending below x ys else x :: y :: ys

/-- Insert elements one after the other behind those of a sorted list that they are not strictly
below. -/
def insertAll (below : α → α → Bool) (sorted xs : List α) : List α :=
  (xs.foldl (fun ys x => insertDescending below x ys) sorted.reverse).reverse

/-- The elements from the least to the greatest, earlier ones first among equals. -/
def insertionSort (below : α → α → Bool) (xs : List α) : List α :=
  insertAll below [] xs

/-- Inserting adds the element. -/
theorem insertDescending_perm (below : α → α → Bool) (x : α) (ys : List α) :
    (insertDescending below x ys).Perm (x :: ys) := by
  induction ys with
  | nil => exact .refl _
  | cons y ys ih =>
    rw [insertDescending]
    split
    · exact (ih.cons y).trans (.swap x y ys)
    · exact .refl _

/-- Inserting one after the other adds the elements. -/
theorem foldl_insertDescending_perm (below : α → α → Bool) (xs ys : List α) :
    (xs.foldl (fun ys x => insertDescending below x ys) ys).Perm (ys ++ xs) := by
  induction xs generalizing ys with
  | nil => simp
  | cons x xs ih =>
    refine (ih _).trans (((insertDescending_perm below x ys).append_right xs).trans ?_)
    exact List.perm_middle.symm

/-- Inserting a list adds its elements. -/
theorem insertAll_perm (below : α → α → Bool) (sorted xs : List α) :
    (insertAll below sorted xs).Perm (sorted ++ xs) :=
  (List.reverse_perm _).trans <|
    (foldl_insertDescending_perm below xs sorted.reverse).trans
      ((List.reverse_perm sorted).append_right xs)

/-- Sorting by insertion keeps the elements. -/
theorem insertionSort_perm (below : α → α → Bool) (xs : List α) :
    (insertionSort below xs).Perm xs :=
  insertAll_perm below [] xs

end TableShell
