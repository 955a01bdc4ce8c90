import Mathlib.Data.Char
import Mathlib.Data.List.Lex
import Mathlib.Order.Compare
import TableShell.Text.Order

/-!
# The order of texts

Texts are compared by code points as lists of characters are in the lexicographic order, and names
as their lower-case forms are. Sorting by names keeps what is sorted.
-/

namespace TableShell.Text

/-- Characters are ordered by their numbers. -/
lemma lt_of_toNat_lt {a b : Char} (h : a.toNat < b.toNat) : a < b :=
  Char.lt_def.mpr (UInt32.lt_iff_toNat_lt.mpr h)

/-- The comparison of texts is the lexicographic order. -/
theorem compareChars_compares (as bs : List Char) : (compareChars as bs).Compares as bs := by
  induction as generalizing bs with
  | nil =>
    cases bs with
    | nil => rfl
    | cons b bs => exact List.nil_lt_cons b bs
  | cons a as ih =>
    cases bs with
    | nil => exact List.nil_lt_cons a as
    | cons b bs =>
      rw [compareChars]
      cases h : compare a.toNat b.toNat with
      | lt =>
        have hlt : a.toNat < b.toNat := compare_lt_iff_lt.mp h
        exact List.cons_lt_cons_iff.mpr (.inl (lt_of_toNat_lt hlt))
      | gt =>
        have hlt : b.toNat < a.toNat := compare_gt_iff_gt.mp h
        exact List.cons_lt_cons_iff.mpr (.inl (lt_of_toNat_lt hlt))
      | eq =>
        obtain rfl : a = b := Char.toNat_inj.mp (compare_eq_iff_eq.mp h)
        have hrest := ih bs
        rw [Ordering.then]
        revert hrest
        cases compareChars as bs with
        | lt => exact fun hrest => List.cons_lt_cons_iff.mpr (.inr ⟨rfl, hrest⟩)
        | eq => exact fun hrest => congrArg (List.cons a) hrest
        | gt => exact fun hrest => List.cons_lt_cons_iff.mpr (.inr ⟨rfl, hrest⟩)

/-- Names are compared as their lower-case forms are. -/
theorem compareFolded_compares (a b : String) :
    (compareFolded a b).Compares (lowerChars a.toList) (lowerChars b.toList) :=
  compareChars_compares _ _

/-- Sorting neither loses nor adds anything. -/
lemma mem_sortByName {α : Type} {name : α → String} {xs : List α} {x : α} :
    x ∈ sortByName name xs ↔ x ∈ xs := by
  unfold sortByName
  rw [List.mem_map]
  constructor
  · rintro ⟨⟨key, y⟩, hy, rfl⟩
    obtain ⟨y', hy', heq⟩ := List.mem_map.mp (List.mem_mergeSort.mp hy)
    obtain ⟨-, rfl⟩ := Prod.mk.inj heq
    exact hy'
  · intro hx
    exact ⟨_, List.mem_mergeSort.mpr (List.mem_map.mpr ⟨x, hx, rfl⟩), rfl⟩

end TableShell.Text
