import Mathlib.Tactic.Common

/-!
# Stable sorting by an order

Where the elements of a list are ordered, the sorted list is determined: an element stands behind
what is strictly below it and before everything else that came after it. So it makes no difference
whether elements are dropped before or after sorting, and elements that the order does not tell
apart stand as they stood in the list.
-/

namespace TableShell

variable {α : Type} {le le' : α → α → Bool}

/-- Sorting hangs only on how the elements of the list are compared with each other. -/
lemma mergeSort_congr {xs : List α} (h : ∀ a ∈ xs, ∀ b ∈ xs, le a b = le' a b) :
    xs.mergeSort le = xs.mergeSort le' := by
  simpa using List.map_mergeSort (f := id) h

section Order

variable (htrans : ∀ a b c, le a b = true → le b c = true → le a c = true)
  (htotal : ∀ a b, (le a b || le b a) = true)

include htrans htotal

/-- The first element of a list is put behind those that are strictly below it. -/
lemma mergeSort_cons_eq (a : α) (xs : List α) :
    (a :: xs).mergeSort le =
      (xs.mergeSort le).filter (fun b => !le a b) ++ a :: (xs.mergeSort le).filter (le a) := by
  obtain ⟨front, back, hsorted, hrest, hfront⟩ := List.mergeSort_cons htrans htotal a xs
  have hpairwise := List.pairwise_mergeSort htrans htotal (a :: xs)
  rw [hsorted] at hpairwise
  have hback : ∀ b ∈ back, le a b = true :=
    (List.pairwise_cons.mp (List.pairwise_append.mp hpairwise).2.1).1
  have hfront' : ∀ b ∈ front, le a b = false := by simpa using hfront
  have hkept : front.filter (fun b => !le a b) = front := List.filter_eq_self.mpr hfront
  have hdropped : front.filter (le a) = [] := by simpa using hfront'
  have hkept' : back.filter (le a) = back := List.filter_eq_self.mpr hback
  have hdropped' : back.filter (fun b => !le a b) = [] := by simpa using hback
  rw [hsorted, hrest, List.filter_append, List.filter_append, hkept, hdropped, hkept', hdropped',
    List.append_nil, List.nil_append]

/-- Elements can be dropped before or after sorting. -/
theorem filter_mergeSort (p : α → Bool) (xs : List α) :
    (xs.mergeSort le).filter p = (xs.filter p).mergeSort le := by
  induction xs with
  | nil => simp
  | cons a xs ih =>
    by_cases ha : p a = true
    · rw [List.filter_cons_of_pos ha, mergeSort_cons_eq htrans htotal a xs,
        mergeSort_cons_eq htrans htotal a (xs.filter p), ← ih, List.filter_append,
        List.filter_cons_of_pos ha]
      simp only [List.filter_filter, Bool.and_comm]
    · obtain ⟨front, back, hsorted, hrest, -⟩ := List.mergeSort_cons htrans htotal a xs
      rw [List.filter_cons_of_neg ha, ← ih, hsorted, hrest, List.filter_append,
        List.filter_cons_of_neg ha, List.filter_append]

/-- Elements each of which may stand before the others are left in the order of the list. -/
theorem filter_mergeSort_of_tied {p : α → Bool} {xs : List α}
    (htied : ∀ a ∈ xs, ∀ b ∈ xs, p a = true → p b = true → le a b = true) :
    (xs.mergeSort le).filter p = xs.filter p := by
  rw [filter_mergeSort htrans htotal]
  refine List.mergeSort_of_pairwise (List.pairwise_of_forall_mem_list fun a ha b hb => ?_)
  obtain ⟨ha, hpa⟩ := List.mem_filter.mp ha
  obtain ⟨hb, hpb⟩ := List.mem_filter.mp hb
  exact htied a ha b hb hpa hpb

/-- An element of a sorted list stands before another one by the order, or, where the order does not
tell them apart, because it does so in the list. -/
theorem pairwise_mergeSort_sublist (xs : List α) :
    (xs.mergeSort le).Pairwise fun a b =>
      le a b = true ∧ (le b a = true → [a, b].Sublist xs) := by
  induction xs with
  | nil => simp
  | cons x xs ih =>
    have hlater : (xs.mergeSort le).Pairwise fun a b =>
        le a b = true ∧ (le b a = true → [a, b].Sublist (x :: xs)) :=
      ih.imp fun h => ⟨h.1, fun hba => (h.2 hba).cons x⟩
    rw [mergeSort_cons_eq htrans htotal, List.pairwise_append, List.pairwise_cons]
    refine ⟨hlater.filter _, ⟨fun b hb => ?_, hlater.filter _⟩, fun a ha b hb => ?_⟩
    · obtain ⟨hb, hxb⟩ := List.mem_filter.mp hb
      exact ⟨hxb, fun _ => (List.singleton_sublist.mpr (List.mem_mergeSort.mp hb)).cons_cons x⟩
    · -- What stands in front of the first element is strictly below it.
      obtain ⟨-, hxa⟩ := List.mem_filter.mp ha
      have hnot : le x a = false := by simpa using hxa
      have hax : le a x = true := by simpa [hnot] using htotal a x
      have hxb : le x b = true := by
        rcases List.mem_cons.mp hb with rfl | hb
        · simpa using htotal b b
        · exact (List.mem_filter.mp hb).2
      refine ⟨htrans a x b hax hxb, fun hba => ?_⟩
      rw [htrans x b a hxb hba] at hnot
      cases hnot

end Order

end TableShell
