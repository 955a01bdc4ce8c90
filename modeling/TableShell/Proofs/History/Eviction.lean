import Mathlib.Data.List.Nodup
import Mathlib.Tactic.Common
import TableShell.History
import TableShell.Proofs.StableSort.Order

/-!
# The lines that are dropped from a table

A table of counts is brought within its bound in one go: the places of its lines are put in order by
their counts, as many of the first ones as there are lines too many are flagged, and the lines
without a flag are left. What this comes to is a rule for one line at a time. The least used line
goes, of several the one that was seen first, and again until the table is within its bound.

That both agree is proved for any places that are read as lines, since the places that are left
after a line has gone are no longer those from the first to the last one. The first place in the
order is that of the least used line that was seen first, as the order is stable
(`find?_leastCount`), and the order of the places that are left is the rest of the order
(`filter_dropOrder`). The rest is an induction on the number of lines that go.
-/

namespace TableShell.History

/-! ### One line at a time -/

/-- The least count of a line other than `kept`. -/
def leastCount? (kept : Option String) (usages : List Usage) : Option Nat :=
  ((usages.filter fun u => some u.command != kept).map Usage.count).min?

/-- Drop the least used line other than `kept`, of several the one seen first. -/
def dropLeastUsed (kept : Option String) (usages : List Usage) : List Usage :=
  match leastCount? kept usages with
  | none => usages
  | some least => usages.eraseP fun u => some u.command != kept && u.count == least

/-- Drop as many of the least used lines as the number says. -/
def dropLeastUsedTimes (kept : Option String) : Nat → List Usage → List Usage
  | 0, usages => usages
  | n + 1, usages => dropLeastUsedTimes kept n (dropLeastUsed kept usages)

/-! ### The order of the places -/

section Places

variable {ι : Type} {kept : Option String} {usageAt : ι → Usage} {places rest : List ι} {i : ι}

/-- Counts are compared by a total order. -/
lemma count_le_trans (i j k : ι) :
    decide ((usageAt i).count ≤ (usageAt j).count) = true →
      decide ((usageAt j).count ≤ (usageAt k).count) = true →
        decide ((usageAt i).count ≤ (usageAt k).count) = true := by
  simp only [decide_eq_true_eq]
  exact Nat.le_trans

/-- Of two counts, one is at most the other. -/
lemma count_le_total (i j : ι) :
    (decide ((usageAt i).count ≤ (usageAt j).count) ||
      decide ((usageAt j).count ≤ (usageAt i).count)) = true := by
  simp only [Bool.or_eq_true, decide_eq_true_eq]
  exact Nat.le_total _ _

/-- Places that are left out leave the others in their order. -/
lemma filter_dropOrder (p : ι → Bool) (places : List ι) :
    (dropOrder kept usageAt places).filter p = dropOrder kept usageAt (places.filter p) := by
  unfold dropOrder
  rw [filter_mergeSort count_le_trans count_le_total, List.filter_comm]

/-- A line may be dropped if its place stands in the order. -/
lemma mem_dropOrder :
    i ∈ dropOrder kept usageAt places ↔ i ∈ places ∧ some (usageAt i).command ≠ kept := by
  unfold dropOrder
  rw [List.mem_mergeSort, List.mem_filter, bne_iff_ne]

/-- No place comes twice in the order in which lines are dropped. -/
lemma nodup_dropOrder (h : places.Nodup) : (dropOrder kept usageAt places).Nodup := by
  unfold dropOrder
  exact (List.mergeSort_perm _ _).nodup_iff.mpr (h.filter _)

/-- The first place in the order has the least count there is. -/
lemma leastCount?_map (horder : dropOrder kept usageAt places = i :: rest) :
    leastCount? kept (places.map usageAt) = some (usageAt i).count := by
  have hsorted : (i :: rest).Pairwise fun i j =>
      decide ((usageAt i).count ≤ (usageAt j).count) = true :=
    horder ▸ List.pairwise_mergeSort count_le_trans count_le_total _
  have hfirst : i ∈ dropOrder kept usageAt places := horder ▸ List.mem_cons_self
  unfold leastCount?
  rw [List.filter_map, List.map_map, List.min?_eq_some_iff]
  refine ⟨?_, ?_⟩
  · obtain ⟨hi, hkept⟩ := mem_dropOrder.mp hfirst
    exact List.mem_map_of_mem (List.mem_filter.mpr ⟨hi, bne_iff_ne.mpr hkept⟩)
  · intro count hcount
    obtain ⟨j, hj, rfl⟩ := List.mem_map.mp hcount
    obtain ⟨hj, hkept⟩ := List.mem_filter.mp hj
    have hmem : j ∈ i :: rest := horder ▸ mem_dropOrder.mpr ⟨hj, bne_iff_ne.mp hkept⟩
    rcases List.mem_cons.mp hmem with rfl | hrest
    · exact Nat.le_refl _
    · exact decide_eq_true_eq.mp ((List.pairwise_cons.mp hsorted).1 j hrest)

/-- It is also the first place that has this count. -/
lemma find?_leastCount (horder : dropOrder kept usageAt places = i :: rest) :
    places.find? (fun j => some (usageAt j).command != kept &&
      (usageAt j).count == (usageAt i).count) = some i := by
  have htied : (dropOrder kept usageAt places).filter
      (fun j => (usageAt j).count == (usageAt i).count) =
        (places.filter fun j => some (usageAt j).command != kept).filter
          fun j => (usageAt j).count == (usageAt i).count := by
    apply filter_mergeSort_of_tied count_le_trans count_le_total
    intro a _ b _ ha hb
    rw [beq_iff_eq] at ha hb
    exact decide_eq_true (Nat.le_of_eq (ha.trans hb.symm))
  have hfirst := congrArg List.head? htied
  rw [horder, List.filter_cons, if_pos (beq_self_eq_true (usageAt i).count), List.head?_cons,
    List.filter_filter, List.head?_filter] at hfirst
  simpa only [Bool.and_comm] using hfirst.symm

/-- Dropping the least used line drops the line at the first place in the order. -/
lemma dropLeastUsed_map [DecidableEq ι] (hnodup : places.Nodup)
    (horder : dropOrder kept usageAt places = i :: rest) :
    dropLeastUsed kept (places.map usageAt) = (places.filter (· != i)).map usageAt := by
  obtain ⟨hi, before, after, hsplit, hbefore⟩ :=
    List.find?_eq_some_iff_append.mp (find?_leastCount horder)
  have hother : ∀ j ∈ before, ¬(some (usageAt j).command != kept &&
      (usageAt j).count == (usageAt i).count) = true := by
    intro j hj hfirst
    have hpassed := hbefore j hj
    rw [hfirst] at hpassed
    cases hpassed
  have hbeforeNe : i ∉ before := fun hmem => hother i hmem hi
  unfold dropLeastUsed
  simp only [leastCount?_map horder]
  rw [List.eraseP_map, Function.comp_def, ← hnodup.erase_eq_filter, hsplit,
    List.erase_append_right _ hbeforeNe, List.erase_cons_head, List.eraseP_append_right _ hother,
    List.eraseP_cons, hi, cond_true]

/-- Nothing is dropped where the order is empty. -/
lemma dropLeastUsed_map_of_nil (horder : dropOrder kept usageAt places = []) :
    dropLeastUsed kept (places.map usageAt) = places.map usageAt := by
  have hnone : places.filter (fun i => some (usageAt i).command != kept) = [] := by
    rw [List.filter_eq_nil_iff]
    intro j hj hkept
    have hmem := mem_dropOrder.mpr ⟨hj, bne_iff_ne.mp hkept⟩
    rw [horder] at hmem
    cases hmem
  unfold dropLeastUsed leastCount?
  rw [List.filter_map, Function.comp_def, hnone]
  rfl

/-- Dropping the least used lines one by one drops the lines at the first places in the order. -/
lemma dropLeastUsedTimes_map [DecidableEq ι] (hnodup : places.Nodup) (n : Nat) :
    dropLeastUsedTimes kept n (places.map usageAt) =
      (places.filter fun i => decide (i ∉ (dropOrder kept usageAt places).take n)).map usageAt := by
  induction n generalizing places with
  | zero => simp [dropLeastUsedTimes]
  | succ n ih =>
    rw [dropLeastUsedTimes]
    cases horder : dropOrder kept usageAt places with
    | nil =>
      rw [dropLeastUsed_map_of_nil horder, ih hnodup, horder, List.take_nil, List.take_nil]
    | cons i rest =>
      have hfresh : i ∉ rest :=
        (List.nodup_cons.mp (horder ▸ nodup_dropOrder hnodup)).1
      have hrest : dropOrder kept usageAt (places.filter (· != i)) = rest := by
        rw [← filter_dropOrder, horder, List.filter_cons, if_neg (by simp), List.filter_eq_self]
        intro j hj
        rw [bne_iff_ne]
        rintro rfl
        exact hfresh hj
      rw [dropLeastUsed_map hnodup horder, ih (hnodup.filter _), hrest, List.filter_filter]
      congr 1
      refine List.filter_congr fun j _ => ?_
      by_cases hij : j = i
      · simp [hij]
      · simp [hij, List.take_succ_cons]

end Places

/-! ### Flags -/

/-- A flag is set at the given places and at no others. -/
lemma getElem_flagsAt_iff {size i : Nat} (places : List (Fin size)) (hi : i < size) :
    (flagsAt places)[i] = true ↔ ⟨i, hi⟩ ∈ places := by
  have hset : ∀ flags : Vector Bool size,
      (places.foldl (fun flags (j : Fin size) => flags.set j true) flags)[i] = true ↔
        flags[i] = true ∨ ⟨i, hi⟩ ∈ places := by
    induction places with
    | nil => simp
    | cons j places ih =>
      intro flags
      rw [List.foldl_cons, ih, List.mem_cons, Fin.ext_iff]
      by_cases hij : (j : Nat) = i
      · simp [hij]
      · simp [hij, Ne.symm hij]
  rw [flagsAt, hset]
  simp

/-- What is not flagged is left. -/
lemma filter_zip_flags {α : Type} (xs : List α) (flags : Vector Bool xs.length) :
    ((xs.zip flags.toList).filter fun flagged => !flagged.2).map Prod.fst =
      ((List.finRange xs.length).filter fun i => !flags[i]).map fun i => xs[i] := by
  have hzip : xs.zip flags.toList = (List.finRange xs.length).map fun i => (xs[i], flags[i]) := by
    refine List.ext_getElem (by simp) fun i _ _ => ?_
    simp
  rw [hzip, List.filter_map, List.map_map]
  rfl

/-! ### The bound -/

/-- A table is brought within its bound by dropping its least used lines one by one. -/
theorem boundUsages_eq_dropLeastUsedTimes (kept : Option String) (limit : Nat)
    (usages : List Usage) :
    boundUsages kept limit usages = dropLeastUsedTimes kept (usages.length - limit) usages := by
  unfold boundUsages
  split
  · next hlength =>
    rw [Nat.sub_eq_zero_of_le hlength]
    rfl
  · let places := List.finRange usages.length
    let order := dropOrder kept (fun i => usages[i]) places
    let excess := usages.length - limit
    have hread : (places.map fun i => usages[i]) = usages := List.map_getElem_finRange usages
    have hflags : ∀ i ∈ places,
        (!(flagsAt (order.take excess))[i]) = decide (i ∉ order.take excess) := by
      intro i _
      have hflag : (flagsAt (order.take excess))[i] = true ↔ i ∈ order.take excess :=
        getElem_flagsAt_iff _ i.isLt
      simp only [← hflag, decide_not, Bool.decide_eq_true]
    calc ((usages.zip (flagsAt (order.take excess)).toList).filter
            fun flagged => !flagged.2).map Prod.fst
      _ = (places.filter fun i => !(flagsAt (order.take excess))[i]).map fun i => usages[i] :=
        filter_zip_flags usages _
      _ = (places.filter fun i => decide (i ∉ order.take excess)).map fun i => usages[i] := by
        rw [List.filter_congr hflags]
      _ = dropLeastUsedTimes kept excess (places.map fun i => usages[i]) :=
        (dropLeastUsedTimes_map (List.nodup_finRange _) _).symm
      _ = dropLeastUsedTimes kept excess usages := by
        rw [hread]

end TableShell.History
