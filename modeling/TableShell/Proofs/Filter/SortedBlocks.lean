import TableShell.Proofs.Filter.Results
import TableShell.Proofs.Table.Order

/-!
# Conditions on a sorted column

Sorting and conditions agree about the order of a column. In a table that is sorted by a column, the
rows below a literal stand in front, those equal to it follow, and those above it stand at the end;
every operator keeps the blocks that belong to it.
-/

namespace TableShell

/-! ### Blocks of a list -/

section Blocks

variable {α : Type} {side : α → Ordering}

/-- What is on two different sides is empty. -/
lemma eq_nil_of_sides {xs : List α} {o o' : Ordering} (h : ∀ x ∈ xs, side x = o)
    (h' : ∀ x ∈ xs, side x = o') (hne : o ≠ o') : xs = [] := by
  rw [List.eq_nil_iff_forall_not_mem]
  intro x hx
  exact hne ((h x hx).symm.trans (h' x hx))

/-- A list along which the sides never go back falls into three blocks. -/
lemma exists_blocks {xs : List α} (h : xs.Pairwise fun a b => NotBehind (side a) (side b)) :
    ∃ below equal above, below ++ equal ++ above = xs ∧ (∀ x ∈ below, side x = .lt) ∧
      (∀ x ∈ equal, side x = .eq) ∧ ∀ x ∈ above, side x = .gt := by
  induction xs with
  | nil => exact ⟨[], [], [], rfl, by simp, by simp, by simp⟩
  | cons a xs ih =>
    obtain ⟨hfirst, hrest⟩ := List.pairwise_cons.mp h
    obtain ⟨below, equal, above, rfl, hbelow, hequal, habove⟩ := ih hrest
    cases ha : side a with
    | lt =>
      exact ⟨a :: below, equal, above, rfl, List.forall_mem_cons.mpr ⟨ha, hbelow⟩, hequal, habove⟩
    | eq =>
      -- What follows `a` on the side below would have put `a` there, too.
      have hempty : below = [] := by
        rw [List.eq_nil_iff_forall_not_mem]
        intro x hx
        have hside := (hfirst x (by simp [hx])).1 (hbelow x hx)
        rw [ha] at hside
        cases hside
      subst hempty
      exact ⟨[], a :: equal, above, rfl, by simp, List.forall_mem_cons.mpr ⟨ha, hequal⟩, habove⟩
    | gt =>
      have hall (x : α) (hx : x ∈ below ++ equal ++ above) : side x = .gt := (hfirst x hx).2 ha
      obtain rfl : below = [] :=
        eq_nil_of_sides hbelow (fun x hx => hall x (by simp [hx])) (by decide)
      obtain rfl : equal = [] :=
        eq_nil_of_sides hequal (fun x hx => hall x (by simp [hx])) (by decide)
      exact ⟨[], [], a :: above, rfl, by simp, by simp, List.forall_mem_cons.mpr ⟨ha, habove⟩⟩

/-- A condition on sides keeps whole blocks. -/
lemma filter_block {xs : List α} {o : Ordering} (p : Ordering → Bool) (h : ∀ x ∈ xs, side x = o) :
    xs.filter (fun x => p (side x)) = if p o then xs else [] := by
  split
  · next hp => exact List.filter_eq_self.mpr fun x hx => by rw [h x hx, hp]
  · next hp => exact List.filter_eq_nil_iff.mpr fun x hx => by rwa [h x hx]

end Blocks

/-! ### Conditions -/

namespace Table

variable {t : Table} {field literal : String} {col : Nat}

/-- What a cell of a row is to a literal, if it fits it. -/
def sideOf (literal : String) (sizeColumn : Bool) (col : Nat) (row : Row) : Option Ordering :=
  row[col]?.bind fun cell => cell.compareLiteral? literal sizeColumn

/-- A comparison keeps a row if the operator accepts the side of the literal on which the cell lies.
-/
lemma cellAccepts_eq (op : CompareOp) (literal : String) (sizeColumn : Bool) (col : Nat)
    (row : Row) :
    cellAccepts op literal sizeColumn col row =
      (sideOf literal sizeColumn col row).any op.accepts := by
  unfold cellAccepts sideOf
  cases row[col]? with
  | none => rfl
  | some cell =>
    dsimp only [Option.bind_some]
    cases cell.compareLiteral? literal sizeColumn <;> rfl

/-- A condition with one of the operators keeps the rows that it accepts. -/
lemma filterRows_symbol (h : t.column? field = some col) (op : CompareOp) (literal : String) :
    t.filterRows field op.symbol literal =
      .ok (t.keep fun row => (sideOf literal (t.isSizeColumn col) col row).any op.accepts) := by
  have hcondition : cellAccepts op literal (t.isSizeColumn col) col =
      fun row => (sideOf literal (t.isSizeColumn col) col row).any op.accepts :=
    funext (cellAccepts_eq op literal (t.isSizeColumn col) col)
  rw [filterRows_of_column? h op.ofSymbol?_symbol, hcondition]

end Table

namespace Filter

open Table

variable {t : Table} {field : String} {col : Nat}

/-- Of two rows in sorted order, the second one is not on a lower side of a literal. -/
lemma notBehind_of_mayPrecede {sizeColumn : Bool} {rows : List Row} {literal : String}
    {o o' : Ordering} (h : OrderedBy sizeColumn col rows) {a b : Row} (ha : a ∈ rows)
    (hb : b ∈ rows) (hab : mayPrecede false sizeColumn col a b = true)
    (ho : sideOf literal sizeColumn col a = some o)
    (ho' : sideOf literal sizeColumn col b = some o') : NotBehind o o' := by
  obtain ⟨x, y, hx, hy, hcomparable⟩ := h a ha b hb
  have hle : rowRank sizeColumn col a ≤ rowRank sizeColumn col b := of_decide_eq_true hab
  simp only [rowRank, hx, hy, Option.map_some, Option.getD_some] at hle
  simp only [sideOf, hx, Option.bind_some] at ho
  simp only [sideOf, hy, Option.bind_some] at ho'
  exact Cell.notBehind_of_compareLiteral? hcomparable hle ho ho'

/-- A literal fits all rows that a column orders, or none of them. -/
lemma isSome_sideOf {sizeColumn : Bool} {rows : List Row} {literal : String}
    (h : OrderedBy sizeColumn col rows) {a b : Row} (ha : a ∈ rows) (hb : b ∈ rows) :
    (sideOf literal sizeColumn col a).isSome = (sideOf literal sizeColumn col b).isSome := by
  obtain ⟨x, y, hx, hy, hcomparable⟩ := h a ha b hb
  simp only [sideOf, hx, hy, Option.bind_some]
  exact Cell.isSome_compareLiteral? hcomparable

/-- In a sorted column, a literal keeps no row with any operator, or it divides the rows into three
blocks. -/
lemma exists_blocks_of_pairwise (hcol : t.column? field = some col)
    (hrows : OrderedBy (t.isSizeColumn col) col t.rows)
    (hsorted : t.rows.Pairwise fun a b => mayPrecede false (t.isSizeColumn col) col a b = true)
    (literal : String) :
    (∀ op : CompareOp, t.filterRows field op.symbol literal = .ok t.emptied) ∨
      ∃ below equal above, below ++ equal ++ above = t.rows ∧
        ∀ op : CompareOp, t.filterRows field op.symbol literal =
          .ok { t with rows := (if op.accepts .lt then below else []) ++
            ((if op.accepts .eq then equal else []) ++ if op.accepts .gt then above else []) } := by
  have hfilter (op : CompareOp) := filterRows_symbol hcol op literal
  by_cases hfits : ∃ row ∈ t.rows, sideOf literal (t.isSizeColumn col) col row = none
  · left
    intro op
    obtain ⟨row, hrow, hside⟩ := hfits
    have hnone (a : Row) (ha : a ∈ t.rows) :
        sideOf literal (t.isSizeColumn col) col a = none := by
      rw [← Option.isNone_iff_eq_none, ← Option.not_isSome, isSome_sideOf hrows ha hrow, hside]
      rfl
    have hempty : t.rows.filter
        (fun a => (sideOf literal (t.isSizeColumn col) col a).any op.accepts) = [] := by
      rw [List.filter_eq_nil_iff]
      intro a ha
      rw [hnone a ha]
      exact Bool.false_ne_true
    rw [hfilter op, keep, hempty]
    rfl
  · right
    have hside (a : Row) (ha : a ∈ t.rows) : sideOf literal (t.isSizeColumn col) col a =
        some ((sideOf literal (t.isSizeColumn col) col a).getD .eq) := by
      cases hsome : sideOf literal (t.isSizeColumn col) col a with
      | none => exact absurd ⟨a, ha, hsome⟩ hfits
      | some o => rfl
    obtain ⟨below, equal, above, hblocks, hbelow, hequal, habove⟩ :=
      exists_blocks (hsorted.imp_of_mem fun ha hb hab =>
        notBehind_of_mayPrecede hrows ha hb hab (hside _ ha) (hside _ hb))
    refine ⟨below, equal, above, hblocks, fun op => ?_⟩
    have hcondition : t.rows.filter
        (fun a => (sideOf literal (t.isSizeColumn col) col a).any op.accepts) =
          t.rows.filter fun a =>
            op.accepts ((sideOf literal (t.isSizeColumn col) col a).getD .eq) := by
      refine List.filter_congr fun a ha => ?_
      rw [hside a ha]
      rfl
    rw [hfilter op, keep, hcondition, ← hblocks, List.filter_append, List.filter_append,
      filter_block op.accepts hbelow, filter_block op.accepts hequal,
      filter_block op.accepts habove, List.append_assoc]

/-- In a table that is sorted by a column, a literal keeps no row with any operator, or it divides
the rows into those below it, those equal to it, and those above it, in this order, and every
operator keeps the blocks that it is named for. -/
theorem exists_blocks_of_sorted (ht : t.Rectangular) (hcol : t.column? field = some col)
    (hord : t.OrdersRows col) (literal : String) :
    ∃ s, sortBy.process t [field, "asc"] = .ok s ∧
      ((∀ op : CompareOp, s.filterRows field op.symbol literal = .ok s.emptied) ∨
        ∃ below equal above, below ++ equal ++ above = s.rows ∧
          s.filterRows field "<" literal = .ok { s with rows := below } ∧
          s.filterRows field "==" literal = .ok { s with rows := equal } ∧
          s.filterRows field ">" literal = .ok { s with rows := above } ∧
          s.filterRows field "<=" literal = .ok { s with rows := below ++ equal } ∧
          s.filterRows field ">=" literal = .ok { s with rows := equal ++ above }) := by
  have hordered := orderedBy_of_ordersRows ht (column?_lt hcol) hord
  have hperm := sortRows_perm false (t.isSizeColumn col) col t.rows
  have hsorted : (sortRows false (t.isSizeColumn col) col t.rows).Pairwise
      fun a b => mayPrecede false (t.isSizeColumn col) col a b = true := by
    rw [sortRows_eq_mergeSort false hordered]
    exact List.pairwise_mergeSort (mayPrecede_trans _ _ _) (mayPrecede_total _ _ _) _
  have hprocess : applySort t [field, "asc"] = .ok (sortTable false col t) := by
    rw [applySort, requireColumn_of_column? hcol]
    rfl
  refine ⟨sortTable false col t, hprocess, ?_⟩
  have hfound : (sortTable false col t).column? field = some col := hcol
  have hblocks := exists_blocks_of_pairwise hfound (hordered.of_subset hperm.subset) hsorted literal
  refine hblocks.imp_right ?_
  rintro ⟨below, equal, above, hrows, hkeep⟩
  refine ⟨below, equal, above, hrows, ?_, ?_, ?_, ?_, ?_⟩
  · simpa [CompareOp.accepts, CompareOp.symbol] using hkeep .lt
  · simpa [CompareOp.accepts, CompareOp.symbol] using hkeep .eq
  · simpa [CompareOp.accepts, CompareOp.symbol] using hkeep .gt
  · simpa [CompareOp.accepts, CompareOp.symbol] using hkeep .le
  · simpa [CompareOp.accepts, CompareOp.symbol] using hkeep .ge

/-! ### A sorted column -/

/-- Four numbers, of which the larger two are rounded to the same floating-point number. -/
def fourNumbers : Table where
  headers := ["N"]
  rows := [[{ value := .integer 9007199254740993 }], [{ value := .integer (-5) }],
    [{ value := .integer 9007199254740992 }], [{ value := .integer 7 }]]

/-- In particular a literal that is no whole number divides the sorted numbers. -/
theorem exists_blocks_of_fourNumbers :
    fourNumbers.Rectangular ∧ fourNumbers.column? "n" = some 0 ∧ fourNumbers.OrdersRows 0 ∧
      ∃ s, sortBy.process fourNumbers ["n", "asc"] = .ok s ∧
        ((∀ op : CompareOp, s.filterRows "n" op.symbol "9007199254740993.0" = .ok s.emptied) ∨
          ∃ below equal above, below ++ equal ++ above = s.rows ∧
            s.filterRows "n" "<" "9007199254740993.0" = .ok { s with rows := below } ∧
            s.filterRows "n" "==" "9007199254740993.0" = .ok { s with rows := equal } ∧
            s.filterRows "n" ">" "9007199254740993.0" = .ok { s with rows := above } ∧
            s.filterRows "n" "<=" "9007199254740993.0" = .ok { s with rows := below ++ equal } ∧
            s.filterRows "n" ">=" "9007199254740993.0" =
              .ok { s with rows := equal ++ above }) := by
  have hrectangular : fourNumbers.Rectangular := by
    unfold Table.Rectangular
    decide
  have hcol : fourNumbers.column? "n" = some 0 := by decide
  have hordered : fourNumbers.OrdersRows 0 := .inr ⟨"int", by decide⟩
  exact ⟨hrectangular, hcol, hordered,
    exists_blocks_of_sorted hrectangular hcol hordered "9007199254740993.0"⟩

end Filter

end TableShell
