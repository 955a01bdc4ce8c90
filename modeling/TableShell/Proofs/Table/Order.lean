import TableShell.Filter
import TableShell.Proofs.Cell.Order
import TableShell.Proofs.StableSort.Order

/-!
# Columns that order the rows

A column orders the rows of a table if its cells count as sizes, or if they are of one kind and none
of them is the floating-point number that is not a number. In such a column the rows are compared as
the ranks of their cells are, so sorting by it is sorting by an order.
-/

namespace TableShell

namespace Table

/-- The cells of a column count as sizes, or they are of one kind and all of them can be compared.
-/
def OrdersRows (t : Table) (col : Nat) : Prop :=
  t.isSizeColumn col = true ∨
    ∃ kind, ∀ row ∈ t.rows, ∀ cell ∈ row[col]?,
      cell.value.typeName = kind ∧ cell.value ≠ .real .nan

end Table

namespace Filter

variable {sizeColumn : Bool} {col : Nat} {rows : List Row}

/-- Every two rows have cells in a column that can be compared. -/
def OrderedBy (sizeColumn : Bool) (col : Nat) (rows : List Row) : Prop :=
  ∀ a ∈ rows, ∀ b ∈ rows, ∃ x y, a[col]? = some x ∧ b[col]? = some y ∧
    Cell.Comparable sizeColumn x y

/-- A column that orders rows orders some of them. -/
lemma OrderedBy.of_subset {rows' : List Row} (h : OrderedBy sizeColumn col rows)
    (hsub : rows' ⊆ rows) : OrderedBy sizeColumn col rows' :=
  fun a ha b hb => h a (hsub ha) b (hsub hb)

/-- A column of a table that orders its rows has cells that can be compared. -/
lemma orderedBy_of_ordersRows {t : Table} (ht : t.Rectangular) (hcol : col < t.headers.length)
    (h : t.OrdersRows col) : OrderedBy (t.isSizeColumn col) col t.rows := by
  have hcell (row : Row) (hrow : row ∈ t.rows) : ∃ cell, row[col]? = some cell := by
    have hlt : col < row.length := by rwa [ht row hrow]
    exact ⟨row[col], List.getElem?_eq_getElem hlt⟩
  intro a ha b hb
  obtain ⟨x, hx⟩ := hcell a ha
  obtain ⟨y, hy⟩ := hcell b hb
  refine ⟨x, y, hx, hy, ?_⟩
  rcases h with hsize | ⟨kind, hkind⟩
  · exact .inl hsize
  · obtain ⟨hx_kind, hx_ne⟩ := hkind a ha x hx
    obtain ⟨hy_kind, hy_ne⟩ := hkind b hb y hy
    exact .inr (Value.alike_of_typeName_eq (hx_kind.trans hy_kind.symm) hx_ne hy_ne)

/-! ### Sorting by ranks -/

/-- The rank of the cell of a row. -/
noncomputable def rowRank (sizeColumn : Bool) (col : Nat) (row : Row) : EReal ⊕ₗ List Char :=
  (row[col]?.map fun cell => cell.value.rank sizeColumn).getD (Sum.inlₗ ⊥)

/-- Whether a row may stand before another one in a sorted list. -/
noncomputable def mayPrecede (descending sizeColumn : Bool) (col : Nat) (a b : Row) : Bool :=
  if descending then decide (rowRank sizeColumn col b ≤ rowRank sizeColumn col a)
  else decide (rowRank sizeColumn col a ≤ rowRank sizeColumn col b)

/-- A row that may precede another one may precede all that the other one may. -/
lemma mayPrecede_trans (descending sizeColumn : Bool) (col : Nat) (a b c : Row)
    (hab : mayPrecede descending sizeColumn col a b = true)
    (hbc : mayPrecede descending sizeColumn col b c = true) :
    mayPrecede descending sizeColumn col a c = true := by
  cases descending with
  | false => exact decide_eq_true ((of_decide_eq_true hab).trans (of_decide_eq_true hbc))
  | true => exact decide_eq_true ((of_decide_eq_true hbc).trans (of_decide_eq_true hab))

/-- Of two rows, one may precede the other. -/
lemma mayPrecede_total (descending sizeColumn : Bool) (col : Nat) (a b : Row) :
    (mayPrecede descending sizeColumn col a b || mayPrecede descending sizeColumn col b a) =
      true := by
  cases descending with
  | false => simpa [mayPrecede] using le_total _ _
  | true => simpa [mayPrecede] using le_total _ _

/-- Rows that a column orders are compared as their ranks are. -/
lemma compareRows_compares (h : OrderedBy sizeColumn col rows) {a b : Row} (ha : a ∈ rows)
    (hb : b ∈ rows) :
    (compareRows sizeColumn col a b).Compares (rowRank sizeColumn col a)
      (rowRank sizeColumn col b) := by
  obtain ⟨x, y, hx, hy, hcomparable⟩ := h a ha b hb
  simp only [compareRows, rowRank, hx, hy, Option.map_some, Option.getD_some]
  exact Cell.compareCells_compares hcomparable

/-- Rows that a column orders are found to be ordered by it. -/
lemma isOrdered_of_orderedBy (h : OrderedBy sizeColumn col rows) :
    isOrdered sizeColumn col rows = true := by
  unfold isOrdered
  cases sizeColumn with
  | true => rfl
  | false =>
    cases rows with
    | nil => rfl
    | cons first rest =>
      rw [Bool.false_or, List.all_eq_true]
      intro row hrow
      obtain ⟨x, y, hx, hy, hcomparable⟩ := h first List.mem_cons_self row hrow
      simp only [alike, hx, hy]
      exact hcomparable.resolve_left (by decide)

/-- Rows that a column orders are sorted by their ranks. -/
theorem sortRows_eq_mergeSort (descending : Bool) (h : OrderedBy sizeColumn col rows) :
    sortRows descending sizeColumn col rows =
      rows.mergeSort (mayPrecede descending sizeColumn col) := by
  unfold sortRows
  rw [if_pos (isOrdered_of_orderedBy h)]
  refine mergeSort_congr fun a ha b hb => ?_
  have hcompares := compareRows_compares h hb ha
  cases descending with
  | false =>
    simp only [mayPrecede, Bool.false_eq_true, if_false]
    rw [Bool.eq_iff_iff]
    simp [hcompares.eq_lt]
  | true =>
    simp only [mayPrecede, if_true]
    rw [Bool.eq_iff_iff]
    simp [hcompares.eq_gt]

end Filter

end TableShell
