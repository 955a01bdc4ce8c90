import Mathlib.Tactic.Common
import TableShell.StableSort

/-!
# Sorting the images of elements

Stable sorting looks at elements only by comparing them. If every element is replaced by its image
and images are compared as the elements are, the sorted list is that of the images. This holds also
for relations that are no order, where the outcome hangs on which elements are compared, and it is
shown for every step of the sort.
-/

namespace TableShell

variable {α β : Type}

/-- The comparison of elements by their images. -/
def byImage (below : β → β → Bool) (f : α → β) (a b : α) : Bool :=
  below (f a) (f b)

variable (below : β → β → Bool) (f : α → β)

/-! ### Insertion -/

/-- An image goes where the element goes. -/
lemma insertDescending_map (x : α) (ys : List α) :
    insertDescending below (f x) (ys.map f) =
      (insertDescending (byImage below f) x ys).map f := by
  induction ys with
  | nil => rfl
  | cons y ys ih =>
    rw [List.map_cons, insertDescending, insertDescending, ih, byImage]
    split <;> rfl

/-- Images are inserted where the elements are. -/
lemma insertAll_map (sorted xs : List α) :
    insertAll below (sorted.map f) (xs.map f) =
      (insertAll (byImage below f) sorted xs).map f := by
  have hfold (ys : List α) :
      (xs.map f).foldl (fun ys x => insertDescending below x ys) (ys.map f) =
        (xs.foldl (fun ys x => insertDescending (byImage below f) x ys) ys).map f := by
    induction xs generalizing ys with
    | nil => rfl
    | cons x xs ih =>
      rw [List.map_cons, List.foldl_cons, List.foldl_cons, insertDescending_map]
      exact ih _
  rw [insertAll, insertAll, ← List.map_reverse, hfold, List.map_reverse]

/-- Sorting images by insertion gives the images of the sorted elements. -/
lemma insertionSort_map (xs : List α) :
    insertionSort below (xs.map f) = (insertionSort (byImage below f) xs).map f :=
  insertAll_map below f [] xs

/-! ### Merging -/

/-- Images are merged from the least on as the elements are. -/
lemma mergeUp_map (left right : List α) :
    mergeUp below (left.map f) (right.map f) = (mergeUp (byImage below f) left right).map f := by
  symm
  apply List.map_merge
  intro x _ y _
  rfl

/-- Images are merged from the greatest on as the elements are. -/
lemma mergeDown_map (left right : List α) :
    mergeDown below (left.map f) (right.map f) =
      (mergeDown (byImage below f) left right).map f := by
  rw [mergeDown, mergeDown, List.map_reverse, ← List.map_reverse, ← List.map_reverse]
  congr 1
  symm
  apply List.map_merge
  intro y _ x _
  rfl

/-- Images are merged from the end of the shorter list as the elements are. -/
lemma mergeRuns_map (left right : List α) :
    mergeRuns below (left.map f) (right.map f) =
      (mergeRuns (byImage below f) left right).map f := by
  rw [mergeRuns, mergeRuns, List.length_map, List.length_map, mergeUp_map, mergeDown_map]
  split <;> rfl

/-- A number of steps of merging leaves the images of what it leaves of the elements. -/
lemma mergeSteps_map (steps : Nat) (left right : List α) :
    mergeSteps below steps (left.map f) (right.map f) =
      Prod.map (List.map f) (Prod.map (List.map f) (List.map f))
        (mergeSteps (byImage below f) steps left right) := by
  induction steps generalizing left right with
  | zero => rfl
  | succ steps ih =>
    cases left with
    | nil => rfl
    | cons x left =>
      cases right with
      | nil => rfl
      | cons y right =>
        have hleft := ih left (y :: right)
        have hright := ih (x :: left) right
        rw [List.map_cons] at hleft hright
        rw [List.map_cons, List.map_cons, mergeSteps, mergeSteps, hleft, hright, byImage]
        split <;> rfl

/-- Images are merged from both ends as the elements are. -/
lemma mergeFromEnds_map (left right : List α) :
    mergeFromEnds below (left.map f) (right.map f) =
      (mergeFromEnds (byImage below f) left right).map f := by
  rw [mergeFromEnds, mergeFromEnds, List.length_map, mergeSteps_map]
  generalize mergeSteps (byImage below f) left.length left right = parts
  obtain ⟨merged, left, right⟩ := parts
  simp only [Prod.map_apply]
  rw [mergeDown_map, List.map_append]

/-! ### Short lists -/

/-- Two images are put in order as the elements are. -/
lemma sortTwo_map (x y : α) :
    sortTwo below (f x) (f y) = Prod.map f f (sortTwo (byImage below f) x y) := by
  rw [sortTwo, sortTwo, byImage]
  split <;> rfl

/-- Two images between two others are put in order as the elements are. -/
lemma sortInner_map (least x y greatest : α) :
    sortInner below (f least) (f x) (f y) (f greatest) =
      (sortInner (byImage below f) least x y greatest).map f := by
  rw [sortInner, sortTwo_map]
  rfl

/-- Two pairs of images are joined as the pairs of elements are. -/
lemma joinPairs_map (a b c d : α) :
    joinPairs below (f a) (f b) (f c) (f d) =
      (joinPairs (byImage below f) a b c d).map f := by
  unfold joinPairs
  simp only [byImage]
  split <;> exact sortInner_map below f _ _ _ _

/-- Four images are put in order as the elements are. -/
lemma sortFour_map (w x y z : α) :
    sortFour below (f w) (f x) (f y) (f z) = (sortFour (byImage below f) w x y z).map f := by
  rw [sortFour, sortTwo_map, sortTwo_map]
  exact joinPairs_map below f _ _ _ _

/-- A half is sorted as that of the elements is. -/
lemma sortHalf_map (byPairs : Bool) (xs : List α) :
    sortHalf below byPairs (xs.map f) = (sortHalf (byImage below f) byPairs xs).map f := by
  rcases xs with _ | ⟨w, _ | ⟨x, _ | ⟨y, _ | ⟨z, rest⟩⟩⟩⟩
  · exact insertionSort_map below f []
  · exact insertionSort_map below f [w]
  · exact insertionSort_map below f [w, x]
  · exact insertionSort_map below f [w, x, y]
  · simp only [List.map_cons, sortHalf]
    split
    · rw [sortFour_map, insertAll_map]
    · exact insertionSort_map below f (w :: x :: y :: z :: rest)

/-- A short list of images is sorted as that of the elements is. -/
lemma sortShort_map (xs : List α) :
    sortShort below (xs.map f) = (sortShort (byImage below f) xs).map f := by
  unfold sortShort
  dsimp only
  rw [List.length_map, ← List.map_take, ← List.map_drop, sortHalf_map, sortHalf_map,
    mergeFromEnds_map]

/-! ### Runs -/

/-- The run of the images. -/
def Run.map (f : α → β) (r : Run α) : Run β :=
  { items := r.items.map f, sorted := r.sorted }

/-- As many images follow one after the other as elements do. -/
lemma chainLength_map (follows : β → β → Bool) (x : α) (ys : List α) :
    chainLength follows (f x) (ys.map f) = chainLength (byImage follows f) x ys := by
  induction ys generalizing x with
  | nil => rfl
  | cons y ys ih =>
    rw [List.map_cons, chainLength, chainLength, ih, byImage]

/-- The sorted stretch in front is as long, and falls or rises alike. -/
lemma frontStretch_map (xs : List α) :
    frontStretch below (xs.map f) = frontStretch (byImage below f) xs := by
  rcases xs with _ | ⟨x, _ | ⟨y, ys⟩⟩
  · rfl
  · rfl
  · simp only [List.map_cons, frontStretch]
    rw [chainLength_map]
    rfl

/-- The first run of the images holds the images of the first run. -/
lemma cutRun_map (later : Bool) (least : Nat) (xs : List α) :
    cutRun below later least (xs.map f) =
      Prod.map (Run.map f) (List.map f) (cutRun (byImage below f) later least xs) := by
  unfold cutRun
  rw [frontStretch_map]
  generalize frontStretch (byImage below f) xs = front
  obtain ⟨length, falls⟩ := front
  dsimp only
  rw [← List.map_take, ← List.map_take, ← List.map_take, ← List.map_drop, ← List.map_drop,
    ← List.map_drop, sortShort_map, ← List.map_reverse]
  split
  · cases falls <;> rfl
  · split <;> rfl

/-- The runs of the images hold the images of the runs. -/
lemma cutRuns_map (later : Bool) (least count : Nat) (xs : List α) :
    cutRuns below later least count (xs.map f) =
      (cutRuns (byImage below f) later least count xs).map (Run.map f) := by
  induction count generalizing xs with
  | zero => cases xs <;> rfl
  | succ count ih =>
    cases xs with
    | nil => rfl
    | cons x xs =>
      have hcut := cutRun_map below f later least (x :: xs)
      rw [List.map_cons] at hcut ⊢
      simp only [cutRuns, hcut]
      generalize cutRun (byImage below f) later least (x :: xs) = parts
      obtain ⟨run, rest⟩ := parts
      exact congrArg (List.cons _) (ih rest)

/-- Settling a run of images gives the images of the settled run, if they are sorted alike. -/
lemma Run.settled_map {sort : List α → List α} {sort' : List β → List β}
    (hsort : ∀ xs, sort' (xs.map f) = (sort xs).map f) (r : Run α) :
    (r.map f).settled sort' = (r.settled sort).map f := by
  unfold Run.settled Run.map
  dsimp only
  rw [hsort]
  split <;> rfl

/-- Runs of images are joined to the images of the joined runs, if they are sorted alike. -/
lemma Run.join_map {sort : List α → List α} {sort' : List β → List β}
    (hsort : ∀ xs, sort' (xs.map f) = (sort xs).map f) (left right : Run α) :
    (left.map f).join below sort' (right.map f) =
      (left.join (byImage below f) sort right).map f := by
  unfold Run.join
  rw [Run.settled_map f hsort, Run.settled_map f hsort, mergeRuns_map]
  change (if left.sorted || right.sorted then _ else _) = _
  split
  · rfl
  · simp [Run.map]

/-- Runs of images are joined with those before them just where the runs of elements are. -/
lemma joinDeeper_map {join : Run α → Run α → Run α} {join' : Run β → Run β → Run β}
    (hjoin : ∀ left right, join' (left.map f) (right.map f) = (join left right).map f)
    (depth : Nat) (before : List (Run α × Nat)) (run : Run α) :
    joinDeeper join' depth (before.map (Prod.map (Run.map f) id)) (run.map f) =
      Prod.map (List.map (Prod.map (Run.map f) id)) (Run.map f)
        (joinDeeper join depth before run) := by
  induction before generalizing run with
  | nil => rfl
  | cons node before ih =>
    obtain ⟨left, d⟩ := node
    simp only [List.map_cons, Prod.map_apply, id_eq, joinDeeper, hjoin, ih]
    split <;> rfl

/-- All runs of images are joined to the images of the joined runs. -/
lemma joinRuns_map {join : Run α → Run α → Run α} {join' : Run β → Run β → Run β}
    (hjoin : ∀ left right, join' (left.map f) (right.map f) = (join left right).map f)
    (length : Nat) (before : List (Run α × Nat)) (run : Run α) (stop : Nat)
    (rest : List (Run α)) :
    joinRuns join' length (before.map (Prod.map (Run.map f) id)) (run.map f) stop
        (rest.map (Run.map f)) =
      (joinRuns join length before run stop rest).map f := by
  induction rest generalizing before run stop with
  | nil =>
    simp only [List.map_nil, joinRuns, joinDeeper_map f hjoin]
    rfl
  | cons next rest ih =>
    have hlength (r : Run α) : (r.map f).items.length = r.items.length := List.length_map f
    simp only [List.map_cons, joinRuns, hlength, joinDeeper_map f hjoin]
    generalize joinDeeper join _ before run = parts
    obtain ⟨before, joined⟩ := parts
    exact ih ((joined, _) :: before) next _

/-- Sorting images by runs gives the images of the sorted elements, if pieces are sorted alike. -/
lemma sortByRuns_map {sort : Option (List α → List α)} {sort' : Option (List β → List β)}
    (hsome : sort'.isSome = sort.isSome)
    (hsort : ∀ xs, sort'.getD (sortShort below) (xs.map f) =
      (sort.getD (sortShort (byImage below f)) xs).map f) (xs : List α) :
    sortByRuns below sort' (xs.map f) = (sortByRuns (byImage below f) sort xs).map f := by
  unfold sortByRuns
  dsimp only
  rw [List.length_map, hsome, cutRuns_map]
  generalize cutRuns (byImage below f) sort.isSome (leastStretch xs.length) xs.length xs = runs
  cases runs with
  | nil => rfl
  | cons run rest =>
    simp only [List.map_cons]
    rw [← Run.settled_map f hsort]
    congr 1
    have hlength : (run.map f).items.length = run.items.length := List.length_map f
    rw [hlength]
    exact joinRuns_map f (Run.join_map below f hsort) xs.length [] run run.items.length rest

/-! ### Pivots -/

/-- The pivot of the images stands where that of the elements does. -/
lemma pivotPlace_map (xs : List α) :
    pivotPlace below (xs.map f) = pivotPlace (byImage below f) xs := by
  unfold pivotPlace
  dsimp only
  rw [List.length_map]
  congr 1
  funext i j
  simp only [List.getElem?_toArray, List.getElem?_map]
  cases xs[i]? with
  | none => rfl
  | some x => cases xs[j]? <;> rfl

/-- The images of a list with an element singled out. -/
def Pivoted.map (f : α → β) (p : Pivoted α) : Pivoted β :=
  { before := p.before.map f, pivot := f p.pivot, after := p.after.map f }

/-- What is singled out at a place of the images is the image of the element there. -/
lemma Pivoted.at?_map (xs : List α) (place : Nat) :
    Pivoted.at? (xs.map f) place = (Pivoted.at? xs place).map (Pivoted.map f) := by
  unfold Pivoted.at?
  rw [← List.map_drop, ← List.map_take]
  cases xs.drop place <;> rfl

/-- Images go to the left or to the right as the elements do. -/
lemma Pivoted.split_map (p : Pivoted α) (goesLeft : β → Bool) (sendLeft : Bool) :
    (p.map f).split goesLeft sendLeft =
      Prod.map (List.map f) (List.map f) (p.split (goesLeft ∘ f) sendLeft) := by
  unfold Pivoted.split Pivoted.map
  simp only [List.partition_eq_filter_filter, List.filter_map]
  cases sendLeft <;> simp [Function.comp_def]

/-- Sorting images by a number of splits gives the images of the sorted elements. -/
lemma pivotSort_map (splits : Nat) (least : Option α) (xs : List α) :
    pivotSort below splits (least.map f) (xs.map f) =
      (pivotSort (byImage below f) splits least xs).map f := by
  have hruns (xs : List α) : sortByRuns below none (xs.map f) =
      (sortByRuns (byImage below f) none xs).map f :=
    @sortByRuns_map _ _ below f none none rfl (sortShort_map below f) xs
  induction splits generalizing least xs with
  | zero =>
    rw [pivotSort, pivotSort, List.length_map, sortShort_map, hruns]
    split <;> rfl
  | succ splits ih =>
    rw [pivotSort, pivotSort, List.length_map, sortShort_map, pivotPlace_map, Pivoted.at?_map,
      hruns]
    split
    · rfl
    · cases Pivoted.at? xs (pivotPlace (byImage below f) xs) with
      | none => rfl
      | some p =>
        have hbelow : (p.map f).split (fun x => below x (p.map f).pivot) false =
            Prod.map (List.map f) (List.map f)
              (p.split (fun x => byImage below f x p.pivot) false) := Pivoted.split_map f p _ _
        have hequal : (p.map f).split (fun x => !below (p.map f).pivot x) true =
            Prod.map (List.map f) (List.map f)
              (p.split (fun x => !byImage below f p.pivot x) true) := Pivoted.split_map f p _ _
        have hleast : (least.map f).any (fun l => !below l (p.map f).pivot) =
            least.any fun l => !byImage below f l p.pivot := by
          cases least <;> rfl
        simp only [Option.map_some, hbelow, hequal, hleast, Prod.map_fst, Prod.map_snd,
          List.isEmpty_map]
        split
        · rw [List.map_append, ← ih none]
          rfl
        · rw [List.map_append, ← ih least, ← ih (some p.pivot)]
          rfl

/-- Sorting images by pivots gives the images of the sorted elements. -/
lemma sortByPivots_map (xs : List α) :
    sortByPivots below (xs.map f) = (sortByPivots (byImage below f) xs).map f := by
  rw [sortByPivots, sortByPivots, List.length_map]
  exact pivotSort_map below f _ none xs

/-! ### Sorting -/

/-- The sorted list of the images is the list of the images of the sorted elements. -/
lemma stableSort_image (xs : List α) :
    stableSort below (xs.map f) = (stableSort (byImage below f) xs).map f := by
  have hnone := @sortByRuns_map _ _ below f none none rfl (sortShort_map below f) xs
  have hsome := @sortByRuns_map _ _ below f (some (sortByPivots (byImage below f)))
    (some (sortByPivots below)) rfl (sortByPivots_map below f) xs
  rw [stableSort, stableSort, List.length_map, insertionSort_map, hnone, hsome]
  split
  · rfl
  · split <;> rfl

/-- Where the images of the elements of a list are compared as the elements are, the sorted list of
the images is the list of the images of the sorted elements. -/
theorem stableSort_map {below : β → β → Bool} {below' : α → α → Bool} {f : α → β} {xs : List α}
    (h : ∀ a ∈ xs, ∀ b ∈ xs, below' a b = below (f a) (f b)) :
    stableSort below (xs.map f) = (stableSort below' xs).map f := by
  -- The elements of the list, each with the fact that it is one, have both lists as images.
  have hsame : byImage below' (fun a : { a // a ∈ xs } => a.1) =
      byImage below fun a : { a // a ∈ xs } => f a.1 := by
    funext a b
    exact h a.1 a.2 b.1 b.2
  have hself : xs.attach.map (fun a => a.1) = xs := List.attach_map_subtype_val xs
  have himages (ys : List { a // a ∈ xs }) :
      ys.map (fun a => f a.1) = (ys.map fun a => a.1).map f := by
    rw [List.map_map]
    rfl
  calc stableSort below (xs.map f)
    _ = stableSort below (xs.attach.map fun a => f a.1) := by rw [himages, hself]
    _ = (stableSort (byImage below' fun a : { a // a ∈ xs } => a.1) xs.attach).map
          fun a => f a.1 := by
      rw [stableSort_image, hsame]
    _ = (stableSort below' xs).map f := by rw [himages, ← stableSort_image, hself]

end TableShell
