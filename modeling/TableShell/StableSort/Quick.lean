import TableShell.StableSort.Runs

/-!
# Sorting by pivots

A list is split at one of its elements, the pivot, into what is below it and what is not, and both
parts are sorted in the same way. Where the pivot is the least element the list is split into what
is equal to it, which is sorted already, and what is above it. After too many splits a list is
sorted by runs.
-/

namespace TableShell

variable {α : Type}

/-! ### Choosing a pivot -/

/-- The middle one of three places by the elements at them. -/
def medianOfThree (below : Nat → Nat → Bool) (a b c : Nat) : Nat :=
  let first := below a b
  if first == below a c then
    if below b c == first then b else c
  else a

/-- A place for three stretches of a list that begin at the given places and are `length` long:
the middle one of a place for each stretch, found in the same way unless the stretch is short. -/
def medianPlace (below : Nat → Nat → Bool) (length a b c : Nat) : Nat :=
  if 8 ≤ length then
    let eighth := length / 8
    let within (start : Nat) : Nat :=
      medianPlace below eighth start (start + 4 * eighth) (start + 7 * eighth)
    medianOfThree below (within a) (within b) (within c)
  else medianOfThree below a b c
termination_by length
decreasing_by all_goals omega

/-- The place of the pivot of a list. -/
def pivotPlace (below : α → α → Bool) (xs : List α) : Nat :=
  let elements := xs.toArray
  let belowAt (i j : Nat) : Bool :=
    match elements[i]?, elements[j]? with
    | some x, some y => below x y
    | _, _ => false
  let eighth := xs.length / 8
  medianPlace belowAt eighth 0 (4 * eighth) (7 * eighth)

/-! ### Splitting -/

/-- A list with one of its elements singled out. -/
structure Pivoted (α : Type) where
  before : List α
  pivot : α
  after : List α

/-- Single out the element at a place. -/
def Pivoted.at? (xs : List α) (place : Nat) : Option (Pivoted α) :=
  match xs.drop place with
  | [] => none
  | pivot :: after => some { before := xs.take place, pivot, after }

/-- What goes left, and what goes right, when a list is split by a condition. The pivot goes where
it is sent. -/
def Pivoted.split (p : Pivoted α) (goesLeft : α → Bool) (sendLeft : Bool) : List α × List α :=
  let (leftBefore, rightBefore) := p.before.partition goesLeft
  let (leftAfter, rightAfter) := p.after.partition goesLeft
  if sendLeft then (leftBefore ++ p.pivot :: leftAfter, rightBefore ++ rightAfter)
  else (leftBefore ++ leftAfter, rightBefore ++ p.pivot :: rightAfter)

/-! ### Sorting -/

/-- Sort a list by pivots, with at most `splits` splits one within the other. No element is below
`least`, if it is given. -/
def pivotSort (below : α → α → Bool) :
    (splits : Nat) → (least : Option α) → List α → List α
  | 0, _, xs =>
    if xs.length ≤ shortLength then sortShort below xs else sortByRuns below none xs
  | splits + 1, least, xs =>
    if xs.length ≤ shortLength then sortShort below xs
    else
      match Pivoted.at? xs (pivotPlace below xs) with
      | none => sortByRuns below none xs
      | some p =>
        let (left, right) := p.split (fun x => below x p.pivot) false
        if (least.any fun l => !below l p.pivot) || left.isEmpty then
          let (equal, above) := p.split (fun x => !below p.pivot x) true
          equal ++ pivotSort below splits none above
        else pivotSort below splits least left ++ pivotSort below splits (some p.pivot) right

/-- Sort a list by pivots. -/
def sortByPivots (below : α → α → Bool) (xs : List α) : List α :=
  pivotSort below (2 * xs.length.log2) none xs

/-! ### Nothing is lost -/

/-- A list is the elements before the one that is singled out, that one and those after it. -/
theorem Pivoted.eq_of_at? {xs : List α} {place : Nat} {p : Pivoted α}
    (h : Pivoted.at? xs place = some p) : xs = p.before ++ p.pivot :: p.after := by
  rw [Pivoted.at?] at h
  split at h
  · cases h
  · rename_i pivot after hd
    cases h
    rw [← hd, List.take_append_drop]

/-- The two parts of a list hold its elements. -/
theorem partition_perm (goesLeft : α → Bool) (xs : List α) :
    ((xs.partition goesLeft).1 ++ (xs.partition goesLeft).2).Perm xs := by
  rw [List.partition_eq_filter_filter]
  exact List.filter_append_perm goesLeft xs

/-- What goes to the left and what goes to the right are the elements of the list. -/
theorem Pivoted.split_perm (p : Pivoted α) (goesLeft : α → Bool) (sendLeft : Bool) :
    ((p.split goesLeft sendLeft).1 ++ (p.split goesLeft sendLeft).2).Perm
      (p.before ++ p.pivot :: p.after) := by
  have whole := (partition_perm goesLeft p.before).append
    ((partition_perm goesLeft p.after).cons p.pivot)
  rw [Pivoted.split]
  revert whole
  cases p.before.partition goesLeft with | mk leftBefore rightBefore
  cases p.after.partition goesLeft with | mk leftAfter rightAfter
  intro whole
  have interleaved (x y z w : List α) : (x ++ y ++ (z ++ w)).Perm (x ++ z ++ (y ++ w)) := by
    rw [List.append_assoc, List.append_assoc]
    exact (List.perm_append_comm_assoc y z w).append_left x
  cases sendLeft with
  | false =>
    refine (interleaved _ _ _ _).trans (.trans ?_ whole)
    exact List.perm_middle.append_left _
  | true => exact (interleaved _ _ _ _).trans whole

/-- Sorting by a number of splits keeps the elements. -/
theorem pivotSort_perm (below : α → α → Bool) (splits : Nat) (least : Option α) (xs : List α) :
    (pivotSort below splits least xs).Perm xs := by
  fun_induction pivotSort below splits least xs with
  | case1 => exact sortShort_perm below _
  | case2 => exact sortByRuns_perm (by simp) _
  | case3 => exact sortShort_perm below _
  | case4 => exact sortByRuns_perm (by simp) _
  | case5 splits least xs _ p hp left right hs _ equal above he ih =>
    have h := Pivoted.split_perm p (fun x => !below p.pivot x) true
    rw [he] at h
    rw [Pivoted.eq_of_at? hp]
    exact (ih.append_left equal).trans h
  | case6 splits least xs _ p hp left right hs _ ihLeft ihRight =>
    have h := Pivoted.split_perm p (fun x => below x p.pivot) false
    rw [hs] at h
    rw [Pivoted.eq_of_at? hp]
    exact (ihLeft.append ihRight).trans h

/-- Sorting by pivots keeps the elements. -/
theorem sortByPivots_perm (below : α → α → Bool) (xs : List α) :
    (sortByPivots below xs).Perm xs :=
  pivotSort_perm below _ none xs

end TableShell
