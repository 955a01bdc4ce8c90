import TableShell.StableSort.Short

/-!
# Sorting by runs

A long list is cut into runs. Long sorted stretches of the list are runs as they are, and the rest
is cut into pieces of a fixed length. Neighbouring runs are joined as the nodes of a balanced tree
over the places of the list, the deeper ones first: the node of two neighbours is as deep as the
middles of both share leading bits, as fractions of the length.
-/

namespace TableShell

variable {α : Type}

/-- Neighbouring elements of a list, and whether they are sorted. -/
structure Run (α : Type) where
  items : List α
  sorted : Bool

/-! ### Cutting -/

/-- The number of elements that follow `x` one after the other in a relation. -/
def chainLength (follows : α → α → Bool) (x : α) : List α → Nat
  | [] => 0
  | y :: ys => if follows x y then chainLength follows y ys + 1 else 0

/-- The length of the longest sorted stretch at the front, and whether it falls. A falling stretch
has no equal elements. -/
def frontStretch (below : α → α → Bool) : List α → Nat × Bool
  | x :: y :: ys =>
    let falls := below y x
    (chainLength (fun a b => below b a == falls) y ys + 2, falls)
  | xs => (xs.length, false)

/-- Cut off the first run. A sorted stretch of `least` elements is a run; otherwise a short piece
is sorted at once or, if pieces can be sorted `later`, a piece of that length is left as it is. -/
def cutRun (below : α → α → Bool) (later : Bool) (least : Nat) (xs : List α) : Run α × List α :=
  let (length, falls) := frontStretch below xs
  if least ≤ length then
    let stretch := xs.take length
    ({ items := if falls then stretch.reverse else stretch, sorted := true }, xs.drop length)
  else if later then ({ items := xs.take least, sorted := false }, xs.drop least)
  else ({ items := sortShort below (xs.take shortLength), sorted := true }, xs.drop shortLength)

/-- Cut a list into at most `count` runs and a rest. -/
def cutRuns (below : α → α → Bool) (later : Bool) (least : Nat) :
    (count : Nat) → List α → List (Run α)
  | _, [] => []
  | 0, xs => [{ items := xs, sorted := false }]
  | count + 1, xs =>
    let (run, rest) := cutRun below later least xs
    run :: cutRuns below later least count rest

/-! ### Joining -/

/-- The elements of a run in order; `sort` is for those that are not sorted yet. -/
def Run.settled (sort : List α → List α) (r : Run α) : List α :=
  if r.sorted then r.items else sort r.items

/-- Join neighbouring runs. Two runs that are not sorted can be sorted together later. -/
def Run.join (below : α → α → Bool) (sort : List α → List α) (left right : Run α) : Run α :=
  if left.sorted || right.sorted then
    { items := mergeRuns below (left.settled sort) (right.settled sort), sorted := true }
  else { items := left.items ++ right.items, sorted := false }

/-- The depth of the node of two neighbouring runs that lie from `start` to `middle` and from there
to `stop` in a list of the given length: the number of leading bits that the middles of both have in
common as 64-bit fractions. -/
def nodeDepth (length start middle stop : Nat) : Nat :=
  let scale := (0x4000000000000000 + length - 1) / length
  let difference := Nat.xor (scale * (start + middle)) (scale * (middle + stop))
  if difference == 0 then 64 else 63 - difference.log2

/-- Join a run with the runs before it, the last one first, that stand at nodes of at least the
given depth. -/
def joinDeeper (join : Run α → Run α → Run α) (depth : Nat) :
    List (Run α × Nat) → Run α → List (Run α × Nat) × Run α
  | [], run => ([], run)
  | (left, d) :: before, run =>
    if depth ≤ d then joinDeeper join depth before (join left run) else ((left, d) :: before, run)

/-- Join all runs of a list of the given length. Before the last run `run`, which ends at `stop`,
stand runs with the depths of their nodes; the runs to come follow it. -/
def joinRuns (join : Run α → Run α → Run α) (length : Nat) :
    List (Run α × Nat) → (run : Run α) → (stop : Nat) → List (Run α) → Run α
  | before, run, _, [] => (joinDeeper join 0 before run).2
  | before, run, stop, next :: rest =>
    let depth := nodeDepth length (stop - run.items.length) stop (stop + next.items.length)
    let (before, joined) := joinDeeper join depth before run
    joinRuns join length ((joined, depth) :: before) next (stop + next.items.length) rest

/-! ### Sorting -/

/-- A number near the square root of a positive number: the mean of a power of two near the root and
of the quotient by that power. -/
def nearRoot (n : Nat) : Nat :=
  let half := (1 + n.log2) / 2
  (Nat.pow 2 half + n / Nat.pow 2 half) / 2

/-- The length from which on a sorted stretch is a run. -/
def leastStretch (length : Nat) : Nat :=
  if length ≤ 4096 then min (length - length / 2) 64 else nearRoot length

/-- Sort a list by runs. Pieces are sorted at once, or by `sort` later if there is one. -/
def sortByRuns (below : α → α → Bool) (sort : Option (List α → List α)) (xs : List α) : List α :=
  let finish := sort.getD (sortShort below)
  match cutRuns below sort.isSome (leastStretch xs.length) xs.length xs with
  | [] => []
  | run :: rest =>
    (joinRuns (Run.join below finish) xs.length [] run run.items.length rest).settled finish

/-! ### Nothing is lost -/

/-- Settling a run keeps its elements. -/
theorem Run.settled_perm {sort : List α → List α} (h : ∀ xs, (sort xs).Perm xs) (r : Run α) :
    (r.settled sort).Perm r.items := by
  rw [Run.settled]
  split
  · exact .refl _
  · exact h _

/-- Joining two runs keeps the elements of both. -/
theorem Run.join_perm {below : α → α → Bool} {sort : List α → List α} (h : ∀ xs, (sort xs).Perm xs)
    (left right : Run α) :
    (left.join below sort right).items.Perm (left.items ++ right.items) := by
  rw [Run.join]
  split
  · exact (mergeRuns_perm below _ _).trans
      ((Run.settled_perm h left).append (Run.settled_perm h right))
  · exact .refl _

/-- The first run and the rest hold the elements of the list. -/
theorem cutRun_perm (below : α → α → Bool) (later : Bool) (least : Nat) (xs : List α) :
    ((cutRun below later least xs).1.items ++ (cutRun below later least xs).2).Perm xs := by
  have whole (n : Nat) {piece : List α} (h : piece.Perm (xs.take n)) :
      (piece ++ xs.drop n).Perm xs := by
    simpa using h.append_right (xs.drop n)
  cases hf : frontStretch below xs with | mk length falls
  simp only [cutRun, hf]
  split
  · refine whole length ?_
    split
    · exact List.reverse_perm _
    · exact .refl _
  · split
    · exact whole least (.refl _)
    · exact whole shortLength (sortShort_perm below _)

/-- The elements of runs. -/
def runItems (runs : List (Run α)) : List α :=
  runs.flatMap Run.items

/-- The runs of a list hold its elements. -/
theorem cutRuns_perm (below : α → α → Bool) (later : Bool) (least count : Nat) (xs : List α) :
    (runItems (cutRuns below later least count xs)).Perm xs := by
  fun_induction cutRuns below later least count xs with
  | case1 => exact .refl _
  | case2 => simp [runItems]
  | case3 count xs _ run rest hr ih =>
    have h := cutRun_perm below later least xs
    rw [hr] at h
    exact (ih.append_left run.items).trans h

/-- The elements of runs that stand in a list from the last to the first. -/
def itemsBefore : List (Run α × Nat) → List α
  | [] => []
  | (run, _) :: before => itemsBefore before ++ run.items

/-- Joining a run with those before it keeps their elements. -/
theorem joinDeeper_perm {join : Run α → Run α → Run α}
    (h : ∀ left right, (join left right).items.Perm (left.items ++ right.items)) (depth : Nat)
    (before : List (Run α × Nat)) (run : Run α) :
    (itemsBefore (joinDeeper join depth before run).1 ++
      (joinDeeper join depth before run).2.items).Perm (itemsBefore before ++ run.items) := by
  fun_induction joinDeeper join depth before run with
  | case1 => exact .refl _
  | case2 left d before run _ ih =>
    refine ih.trans (((h left run).append_left _).trans ?_)
    rw [itemsBefore, List.append_assoc]
  | case3 => exact .refl _

/-- All runs stand at least at depth zero, so none is left before the joined one. -/
theorem joinDeeper_zero (join : Run α → Run α → Run α) (before : List (Run α × Nat))
    (run : Run α) : (joinDeeper join 0 before run).1 = [] := by
  induction before generalizing run with
  | nil => rfl
  | cons _ before ih => simp [joinDeeper, ih]

/-- Joining all runs keeps their elements. -/
theorem joinRuns_perm {join : Run α → Run α → Run α}
    (h : ∀ left right, (join left right).items.Perm (left.items ++ right.items))
    (length : Nat) (before : List (Run α × Nat)) (run : Run α) (stop : Nat)
    (rest : List (Run α)) :
    (joinRuns join length before run stop rest).items.Perm
      (itemsBefore before ++ run.items ++ runItems rest) := by
  fun_induction joinRuns join length before run stop rest with
  | case1 _ before run =>
    have := joinDeeper_perm h 0 before run
    rw [joinDeeper_zero] at this
    simpa [runItems, itemsBefore] using this
  | case2 before run stop next rest depth earlier joined hj ih =>
    have := joinDeeper_perm h depth before run
    rw [hj] at this
    refine ih.trans ?_
    rw [itemsBefore, List.append_assoc]
    exact this.append_right _

/-- Sorting by runs keeps the elements. -/
theorem sortByRuns_perm {below : α → α → Bool} {sort : Option (List α → List α)}
    (h : ∀ f ∈ sort, ∀ xs, (f xs).Perm xs) (xs : List α) :
    (sortByRuns below sort xs).Perm xs := by
  have finish : ∀ xs, (sort.getD (sortShort below) xs).Perm xs := by
    cases sort with
    | none => exact sortShort_perm below
    | some f => exact h f rfl
  have cut := cutRuns_perm below sort.isSome (leastStretch xs.length) xs.length xs
  rw [sortByRuns]
  split
  · rename_i heq
    rw [heq] at cut
    exact cut
  · rename_i run rest heq
    rw [heq] at cut
    refine (Run.settled_perm finish _).trans (.trans ?_ cut)
    exact joinRuns_perm (Run.join_perm finish) _ _ _ _ _

end TableShell
