/-!
# Merging sorted lists

Two sorted lists become one, where elements of the left list come before equal ones of the right
list. Merging can start at either end, or at both. For relations that are no order the outcomes
differ, because different elements are compared.
-/

namespace TableShell

variable {α : Type}

/-- Merge two lists from the least elements on. -/
def mergeUp (below : α → α → Bool) (left right : List α) : List α :=
  left.merge right fun x y => !below y x

/-- Merge two lists from the greatest elements on. -/
def mergeDown (below : α → α → Bool) (left right : List α) : List α :=
  (right.reverse.merge left.reverse fun y x => !below y x).reverse

/-- Merge two lists from the end of the shorter one. -/
def mergeRuns (below : α → α → Bool) (left right : List α) : List α :=
  if left.length ≤ right.length then mergeUp below left right else mergeDown below left right

/-- Merge at most `steps` elements of two lists from the least on, as long as neither list is at its
end. What is left of the lists follows the merged elements. -/
def mergeSteps (below : α → α → Bool) :
    (steps : Nat) → List α → List α → List α × List α × List α
  | 0, left, right => ([], left, right)
  | _ + 1, [], right => ([], [], right)
  | _ + 1, left, [] => ([], left, [])
  | steps + 1, x :: left, y :: right =>
    if below y x then
      let (merged, rest) := mergeSteps below steps (x :: left) right
      (y :: merged, rest)
    else
      let (merged, rest) := mergeSteps below steps left (y :: right)
      (x :: merged, rest)

/-- Merge two lists from both ends, from the least elements on as often as the left list is long
and then from the greatest on. If the relation is no order, the two ends may not meet: then what is
left between them is kept. A sort that gives up there, as it is free to, is not modelled. -/
def mergeFromEnds (below : α → α → Bool) (left right : List α) : List α :=
  let (merged, left, right) := mergeSteps below left.length left right
  merged ++ mergeDown below left right

/-! ### Nothing is lost -/

/-- Merging from the least on keeps the elements of both lists. -/
theorem mergeUp_perm (below : α → α → Bool) (left right : List α) :
    (mergeUp below left right).Perm (left ++ right) :=
  List.merge_perm_append _

/-- Merging from the greatest on keeps the elements of both lists. -/
theorem mergeDown_perm (below : α → α → Bool) (left right : List α) :
    (mergeDown below left right).Perm (left ++ right) := by
  refine (List.reverse_perm _).trans ((List.merge_perm_append _).trans ?_)
  rw [← List.reverse_append]
  exact List.reverse_perm _

/-- Merging from the end of the shorter list keeps the elements of both. -/
theorem mergeRuns_perm (below : α → α → Bool) (left right : List α) :
    (mergeRuns below left right).Perm (left ++ right) := by
  rw [mergeRuns]
  split
  · exact mergeUp_perm below left right
  · exact mergeDown_perm below left right

/-- What is merged after some steps and what is left of the lists are the elements of both. -/
theorem mergeSteps_perm (below : α → α → Bool) (steps : Nat) (left right : List α) :
    let (merged, l, r) := mergeSteps below steps left right
    (merged ++ (l ++ r)).Perm (left ++ right) := by
  fun_induction mergeSteps below steps left right with
  | case1 | case2 | case3 => exact .refl _
  | case4 steps x left y right _ merged rest hm ih =>
    rw [hm] at ih
    exact (ih.cons y).trans List.perm_middle.symm
  | case5 steps x left y right _ merged rest hm ih =>
    rw [hm] at ih
    exact ih.cons x

/-- Merging from both ends keeps the elements of both lists. -/
theorem mergeFromEnds_perm (below : α → α → Bool) (left right : List α) :
    (mergeFromEnds below left right).Perm (left ++ right) := by
  have h := mergeSteps_perm below left.length left right
  rw [mergeFromEnds]
  exact ((mergeDown_perm below _ _).append_left _).trans h

end TableShell
