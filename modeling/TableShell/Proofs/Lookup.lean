import Mathlib.Tactic.Common

/-!
# Looking up keys

A list of pairs is looked up from its start: pairs of other keys are passed over. A list that keeps
one pair for a key drops its old pair and puts the new one at the end.
-/

namespace TableShell

variable {α β : Type} [BEq α] [LawfulBEq α] {entries before after : List (α × β)} {key other : α}

/-- A key is not found exactly if it is the key of no pair. -/
lemma lookup_eq_none_iff_notMem : entries.lookup key = none ↔ key ∉ entries.map Prod.fst := by
  rw [List.lookup_eq_none_iff]
  simp only [List.mem_map, not_exists, not_and, bne_iff_ne]
  exact forall₂_congr fun e _ => ne_comm

/-- A value that is found stands in the list with its key. -/
lemma mem_of_lookup_eq_some {value : β} (h : entries.lookup key = some value) :
    (key, value) ∈ entries := by
  obtain ⟨before, after, hentries, -⟩ := List.lookup_eq_some_iff.mp h
  rw [hentries]
  exact List.mem_append_right before List.mem_cons_self

/-- A key that does not stand in a first part is looked up in the rest. -/
lemma lookup_append_of_notMem (h : key ∉ before.map Prod.fst) :
    (before ++ after).lookup key = after.lookup key := by
  rw [List.lookup_append, lookup_eq_none_iff_notMem.mpr h, Option.none_or]

/-- Other keys are not found among pairs of one key. -/
lemma lookup_eq_none_of_forall (h : ∀ e ∈ entries, e.1 = key) (hother : other ≠ key) :
    entries.lookup other = none := by
  rw [lookup_eq_none_iff_notMem]
  intro hmem
  obtain ⟨e, he, heq⟩ := List.mem_map.mp hmem
  exact hother (heq.symm.trans (h e he))

/-- Pairs of another key do not matter. -/
lemma lookup_filter_ne (h : other ≠ key) :
    (entries.filter fun e => e.1 != key).lookup other = entries.lookup other := by
  induction entries with
  | nil => rfl
  | cons e rest ih =>
    rw [List.filter_cons]
    by_cases he : e.1 = key
    · rw [if_neg (by simpa using he), ih, List.lookup_cons,
        beq_false_of_ne fun hother => h (hother.trans he)]
    · rw [if_pos (by simpa using he), List.lookup_cons, List.lookup_cons, ih]

/-- A key has the value that it is given last, and other keys have the values they had. -/
lemma lookup_replaced [DecidableEq α] (entries : List (α × β)) (key other : α) (value : β) :
    (entries.filter (fun e => e.1 != key) ++ [(key, value)]).lookup other =
      if other = key then some value else entries.lookup other := by
  by_cases hother : other = key
  · have hdropped : key ∉ (entries.filter fun e => e.1 != key).map Prod.fst := by
      intro hmem
      obtain ⟨e, he, heq⟩ := List.mem_map.mp hmem
      exact bne_iff_ne.mp (List.mem_filter.mp he).2 heq
    rw [if_pos hother, hother, lookup_append_of_notMem hdropped, List.lookup_cons_self]
  · have hlast : [(key, value)].lookup other = none :=
      lookup_eq_none_of_forall (by simp) hother
    rw [if_neg hother, List.lookup_append, lookup_filter_ne hother, hlast, Option.or_none]

end TableShell
