import TableShell.Proofs.Filter.Results
import TableShell.Proofs.Table.Order

/-!
# Tables that are sorted by a column

Sorting a table by a column that orders its rows puts the rows into the order of the column, upwards
or downwards. Rows that compare equal stay as they stood, in both directions: sorting downwards
turns the comparison round and not the outcome. `SortedBy` says so without regard to how it is done.
-/

namespace TableShell

namespace Filter

open Table

variable {descending sizeColumn : Bool} {col : Nat} {rows : List Row} {field : String}
  {direction : List String} {t : Table} {a b : Row}

/-- Words that tell the direction of sorting: `asc` or `desc` without regard to ASCII case, or
nothing at all, which means upwards. Further words do not matter. -/
def TellsDirection (descending : Bool) : List String → Prop
  | [] => descending = false
  | word :: _ => Text.asciiLower word = if descending then "desc" else "asc"

/-- A table holds the rows of another one sorted by a column. No row stands on the wrong side of a
later one, and the rows that compare equal to any row of the table stand as they stood in it. -/
structure SortedBy (descending : Bool) (col : Nat) (t s : Table) : Prop where
  headers_eq : s.headers = t.headers
  perm : s.rows.Perm t.rows
  ordered : s.rows.Pairwise fun a b =>
    compareRows (t.isSizeColumn col) col a b ≠ if descending then .lt else .gt
  stable : ∀ row ∈ t.rows,
    s.rows.filter (fun other => compareRows (t.isSizeColumn col) col row other == .eq) =
      t.rows.filter fun other => compareRows (t.isSizeColumn col) col row other == .eq

/-- The arguments that tell a direction are read as that direction. -/
lemma parseDirection_of_tellsDirection (h : TellsDirection descending direction) :
    parseDirection direction = .ok descending := by
  cases direction with
  | nil =>
    obtain rfl : descending = false := h
    rfl
  | cons word more =>
    unfold TellsDirection at h
    cases descending <;> simp_all [parseDirection, pure, Except.pure]

/-! ### Comparison and ranks -/

/-- A row may precede another one unless the comparison says otherwise. -/
lemma compareRows_ne_iff (h : OrderedBy sizeColumn col rows) (ha : a ∈ rows) (hb : b ∈ rows) :
    (compareRows sizeColumn col a b ≠ if descending then .lt else .gt) ↔
      mayPrecede descending sizeColumn col a b = true := by
  have hcompares := compareRows_compares h ha hb
  cases descending with
  | false => simp [mayPrecede, hcompares.eq_gt]
  | true => simp [mayPrecede, hcompares.eq_lt]

/-- Rows compare equal exactly if they have the same rank. -/
lemma compareRows_eq_iff (h : OrderedBy sizeColumn col rows) (ha : a ∈ rows) (hb : b ∈ rows) :
    compareRows sizeColumn col a b = .eq ↔ rowRank sizeColumn col a = rowRank sizeColumn col b :=
  (compareRows_compares h ha hb).eq_eq

/-- Rows of the same rank may precede each other. -/
lemma mayPrecede_of_rowRank_eq (h : rowRank sizeColumn col a = rowRank sizeColumn col b) :
    mayPrecede descending sizeColumn col a b = true := by
  cases descending with
  | false => exact decide_eq_true h.le
  | true => exact decide_eq_true h.ge

/-! ### Sorted rows -/

/-- After sorting, no row stands in front of one that should precede it. -/
lemma pairwise_sortRows (descending : Bool) (h : OrderedBy sizeColumn col rows) :
    (sortRows descending sizeColumn col rows).Pairwise fun a b =>
      mayPrecede descending sizeColumn col a b = true := by
  rw [sortRows_eq_mergeSort descending h]
  exact List.pairwise_mergeSort (mayPrecede_trans _ _ _) (mayPrecede_total _ _ _) _

/-- Rows that are sorted already stay as they are. -/
lemma sortRows_sortRows (h : OrderedBy sizeColumn col rows) :
    sortRows descending sizeColumn col (sortRows descending sizeColumn col rows) =
      sortRows descending sizeColumn col rows := by
  have hsub := (sortRows_perm descending sizeColumn col rows).subset
  rw [sortRows_eq_mergeSort descending (h.of_subset hsub)]
  exact List.mergeSort_of_pairwise (pairwise_sortRows descending h)

/-- The rows that compare equal to a row stay as they stood. -/
lemma filter_sortRows (h : OrderedBy sizeColumn col rows) {row : Row} (hrow : row ∈ rows) :
    (sortRows descending sizeColumn col rows).filter
        (fun other => compareRows sizeColumn col row other == .eq) =
      rows.filter fun other => compareRows sizeColumn col row other == .eq := by
  rw [sortRows_eq_mergeSort descending h]
  refine filter_mergeSort_of_tied (mayPrecede_trans _ _ _) (mayPrecede_total _ _ _) ?_
  intro a ha b hb hrow_a hrow_b
  have hrank_a := (compareRows_eq_iff h hrow ha).mp (beq_iff_eq.mp hrow_a)
  have hrank_b := (compareRows_eq_iff h hrow hb).mp (beq_iff_eq.mp hrow_b)
  exact mayPrecede_of_rowRank_eq (hrank_a.symm.trans hrank_b)

/-! ### Sorted tables -/

/-- Sorting by an ordered column gives the rows in their order, and equal ones in the order they
had. -/
lemma sortedBy_sortTable (descending : Bool) (h : OrderedBy (t.isSizeColumn col) col t.rows) :
    SortedBy descending col t (sortTable descending col t) where
  headers_eq := rfl
  perm := sortRows_perm _ _ _ _
  ordered := by
    have hsub := (sortRows_perm descending (t.isSizeColumn col) col t.rows).subset
    refine (pairwise_sortRows descending h).imp_of_mem fun ha hb hab => ?_
    exact (compareRows_ne_iff h (hsub ha) (hsub hb)).mpr hab
  stable := fun _ hrow => filter_sortRows h hrow

/-- The filter `sort-by` has the sorted table as its result. -/
lemma process_sortBy (hcol : t.column? field = some col)
    (hdirection : TellsDirection descending direction) :
    sortBy.process t (field :: direction) = .ok (sortTable descending col t) := by
  change applySort t (field :: direction) = _
  rw [applySort, requireColumn_of_column? hcol, parseDirection_of_tellsDirection hdirection]
  rfl

/-- A table is sorted by a column that orders its rows, in either direction, and sorting it once
more changes nothing. -/
theorem exists_sortedBy_of_sortBy (ht : t.Rectangular) (hcol : t.column? field = some col)
    (hord : t.OrdersRows col) (hdirection : TellsDirection descending direction) :
    ∃ s, sortBy.process t (field :: direction) = .ok s ∧ SortedBy descending col t s ∧
      sortBy.process s (field :: direction) = .ok s := by
  have hordered := orderedBy_of_ordersRows ht (column?_lt hcol) hord
  have hagain : sortTable descending col (sortTable descending col t) =
      sortTable descending col t :=
    congrArg (fun rows => { t with rows }) (sortRows_sortRows hordered)
  refine ⟨sortTable descending col t, process_sortBy hcol hdirection,
    sortedBy_sortTable descending hordered, ?_⟩
  have hfound : (sortTable descending col t).column? field = some col := hcol
  exact (process_sortBy hfound hdirection).trans (congrArg Except.ok hagain)

/-- Sizes in four kinds of cells, three of which stand for the same number of bytes. -/
def mixedSizes : Table where
  headers := ["Name", "Size"]
  rows := [[{ value := .text "a" }, { value := .text "2 kb" }],
    [{ value := .text "b" }, { value := .integer (-7) }],
    [{ value := .text "c" }, { value := .size "1.5 MB" }],
    [{ value := .text "d" }, { value := .integer 2048 }],
    [{ value := .text "e" }, { value := .real (.finite false 4097 (-1)) }]]

/-- In particular sizes are sorted downwards whatever kinds of cells they stand in. -/
theorem exists_sortedBy_mixedSizes :
    mixedSizes.Rectangular ∧ mixedSizes.column? "SIZE" = some 1 ∧ mixedSizes.OrdersRows 1 ∧
      TellsDirection true ["Desc", "asc"] ∧
      ∃ s, sortBy.process mixedSizes ["SIZE", "Desc", "asc"] = .ok s ∧
        SortedBy true 1 mixedSizes s ∧ sortBy.process s ["SIZE", "Desc", "asc"] = .ok s := by
  have hrectangular : mixedSizes.Rectangular := by
    unfold Table.Rectangular
    decide
  have hcol : mixedSizes.column? "SIZE" = some 1 := by decide
  have hordered : mixedSizes.OrdersRows 1 := .inl (by decide)
  have hdirection : TellsDirection true ["Desc", "asc"] := by
    unfold TellsDirection
    decide +kernel
  exact ⟨hrectangular, hcol, hordered, hdirection,
    exists_sortedBy_of_sortBy hrectangular hcol hordered hdirection⟩

end Filter

end TableShell
