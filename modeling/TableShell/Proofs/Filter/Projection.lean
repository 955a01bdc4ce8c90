import TableShell.Proofs.Filter.Results
import TableShell.Proofs.StableSort.Mapping

/-!
# Picking columns before and after other filters

A filter that finds its column among the picked ones does the same before and after the columns are
picked. Names are looked up without regard to case, and the first of several columns with one name
is found; every picked column has been found in this way, so a name that leads to a picked column
leads to the same column of the whole table.
-/

namespace TableShell

/-! ### Names of columns -/

/-- Two texts are the same in any case if their letters are once they are small. -/
lemma Text.sameIgnoringCase_iff {a b : String} :
    Text.sameIgnoringCase a b = true ↔ a.toList.map Char.toLower = b.toList.map Char.toLower :=
  beq_iff_eq

namespace Table

variable {t : Table} {field name : String} {col i : Nat}

/-- Names that differ in the case of letters only lead to the same column. -/
lemma column?_congr_name (h : Text.sameIgnoringCase field name = true) :
    t.column? field = t.column? name := by
  have hsame : (fun header => Text.sameIgnoringCase header field) =
      fun header => Text.sameIgnoringCase header name := by
    funext header
    simp only [Text.sameIgnoringCase, Text.sameIgnoringCase_iff.mp h]
  rw [column?, column?, hsame]

/-- The header of the column that a name leads to is that name, up to case. -/
lemma exists_header_of_column? (h : t.column? name = some col) :
    ∃ header, t.headers[col]? = some header ∧ Text.sameIgnoringCase header name = true := by
  obtain ⟨hlt, hsame, -⟩ := List.findIdx?_eq_some_iff_getElem.mp h
  exact ⟨t.headers[col], List.getElem?_eq_getElem hlt, hsame⟩

end Table

namespace Filter

open Table

variable {t r : Table} {cols : List Nat} {args : List String} {name : String} {col i : Nat}

/-! ### Picked columns -/

/-- The columns that are picked are columns to which a name leads. -/
def Named (t : Table) (cols : List Nat) : Prop :=
  ∀ col ∈ cols, ∃ field, t.column? field = some col

/-- What the filter `select` results in. -/
lemma exists_project_of_process (h : select.process t args = .ok r) :
    ∃ cols, Named t cols ∧ r = project t cols ∧
      ∀ u : Table, u.headers = t.headers → select.process u args = .ok (project u cols) := by
  change applySelect t args = .ok r at h
  unfold applySelect at h
  dsimp only at h
  split at h
  · cases h
  · next hfields =>
    obtain ⟨cols, hcols, h⟩ := bind_eq_ok.mp h
    refine ⟨cols, ?_, (Except.ok.inj h).symm, fun u hu => ?_⟩
    · exact forall_mem_of_mapM_eq_ok (fun field _ hcol => ⟨field, column?_of_requireColumn hcol⟩)
        hcols
    · change applySelect u args = _
      unfold applySelect
      dsimp only
      rw [if_neg hfields, funext (requireColumn_congr hu), hcols]
      rfl

/-- Columns to which names lead are columns of the table. -/
lemma Named.lt (h : Named t cols) : ∀ col ∈ cols, col < t.headers.length := by
  intro col hcol
  obtain ⟨field, hfield⟩ := h col hcol
  exact column?_lt hfield

/-- A name that leads to a picked column leads to the same column of the whole table. -/
lemma exists_column?_of_project (h : Named t cols) (hi : (project t cols).column? name = some i) :
    ∃ col, cols[i]? = some col ∧ t.column? name = some col := by
  obtain ⟨header, hheader, hname⟩ := exists_header_of_column? hi
  change (pick cols t.headers)[i]? = some header at hheader
  rw [getElem?_pick h.lt] at hheader
  obtain ⟨col, hcol, hheader⟩ := Option.bind_eq_some_iff.mp hheader
  obtain ⟨field, hfield⟩ := h col (List.mem_of_getElem? hcol)
  obtain ⟨header', hheader', hsame⟩ := exists_header_of_column? hfield
  obtain rfl : header = header' := Option.some.inj (hheader.symm.trans hheader')
  refine ⟨col, hcol, ?_⟩
  rw [← column?_congr_name hname, column?_congr_name hsame, hfield]

/-- The cell of a row in a picked column. -/
lemma getElem?_pick_row (ht : t.Rectangular) (h : Named t cols) (hcol : cols[i]? = some col)
    {row : Row} (hrow : row ∈ t.rows) : (pick cols row)[i]? = row[col]? := by
  have hwidth : ∀ col ∈ cols, col < row.length := by
    rw [ht row hrow]
    exact h.lt
  rw [getElem?_pick hwidth, hcol]
  rfl

/-- A column that is picked holds sizes if it did before. -/
lemma isSizeColumn_project (h : Named t cols) (hcol : cols[i]? = some col) :
    (project t cols).isSizeColumn i = t.isSizeColumn col := by
  have hheader : (project t cols).headers[i]? = t.headers[col]? := by
    change (pick cols t.headers)[i]? = _
    rw [getElem?_pick h.lt, hcol]
    rfl
  simp only [isSizeColumn, hheader]

/-! ### Operations on picked columns -/

/-- Rows are chosen before and after picking columns by conditions that agree. -/
lemma project_keep {p q : Row → Bool} (h : ∀ row ∈ t.rows, q (pick cols row) = p row) :
    project (t.keep p) cols = (project t cols).keep q := by
  have hrows : (t.rows.filter p).map (pick cols) = (t.rows.map (pick cols)).filter q := by
    rw [List.filter_map]
    refine congrArg (List.map (pick cols)) (List.filter_congr fun row hrow => ?_)
    exact (h row hrow).symm
  exact congrArg (Table.mk (pick cols t.headers)) hrows

section Images

variable {g : Row → Row} {rows : List Row} (hcell : ∀ row ∈ rows, (g row)[i]? = row[col]?)

include hcell

/-- A column is ordered if the column that its cells are taken from is. -/
lemma isOrdered_map (sizeColumn : Bool) :
    isOrdered sizeColumn i (rows.map g) = isOrdered sizeColumn col rows := by
  unfold isOrdered
  congr 1
  cases rows with
  | nil => rfl
  | cons first rest =>
    change ((first :: rest).map g).all (alike i (g first)) = _
    rw [List.all_map, Bool.eq_iff_iff, List.all_eq_true, List.all_eq_true]
    refine forall₂_congr fun row hrow => ?_
    rw [Function.comp_apply, alike, alike, hcell first List.mem_cons_self, hcell row hrow]

/-- Rows with the same cells in the column are sorted in the same way. -/
lemma sortRows_map (descending sizeColumn : Bool) :
    sortRows descending sizeColumn i (rows.map g) =
      (sortRows descending sizeColumn col rows).map g := by
  have hcompare (a : Row) (ha : a ∈ rows) (b : Row) (hb : b ∈ rows) :
      compareRows sizeColumn col a b = compareRows sizeColumn i (g a) (g b) := by
    rw [compareRows, compareRows, hcell a ha, hcell b hb]
  unfold sortRows
  dsimp only
  rw [isOrdered_map hcell]
  split
  · symm
    apply List.map_mergeSort
    intro a ha b hb
    rw [hcompare b hb a ha]
  · apply stableSort_map
    intro a ha b hb
    rw [hcompare a ha b hb]

end Images

/-- Rows are sorted before and after picking columns by columns that agree. -/
lemma project_sortTable (ht : t.Rectangular) (h : Named t cols) (hcol : cols[i]? = some col)
    (descending : Bool) :
    project (sortTable descending col t) cols = sortTable descending i (project t cols) := by
  have hrows := sortRows_map (fun row hrow => getElem?_pick_row ht h hcol hrow) descending
    (t.isSizeColumn col)
  have hsorted : sortTable descending i (project t cols) = Table.mk (pick cols t.headers)
      (sortRows descending (t.isSizeColumn col) i (t.rows.map (pick cols))) := by
    rw [sortTable, isSizeColumn_project h hcol]
    rfl
  rw [hsorted]
  exact (congrArg (Table.mk (pick cols t.headers)) hrows).symm

/-! ### Filters on picked columns -/

/-- Whether a stage's first argument, if it has one, is the name of a column. -/
def FindsColumn (t : Table) (args : List String) : Prop :=
  ∀ field ∈ args.head?, (t.column? field).isSome

/-- A name that leads to a column of the picked table leads to the column it was picked from. -/
lemma exists_columns (h : Named t cols) {field : String} {more : List String}
    (hfinds : FindsColumn (project t cols) (field :: more)) :
    ∃ i col, cols[i]? = some col ∧ t.column? field = some col ∧
      (project t cols).column? field = some i := by
  obtain ⟨i, hi⟩ := Option.isSome_iff_exists.mp (hfinds field rfl)
  obtain ⟨col, hcol, hfield⟩ := exists_column?_of_project h hi
  exact ⟨i, col, hcol, hfield, hi⟩

/-- Rows can be kept by a condition before or after columns are picked. -/
lemma applyCondition_project (ht : t.Rectangular) (h : Named t cols)
    (hfinds : FindsColumn (project t cols) args) :
    applyCondition (project t cols) args = (applyCondition t args).map (project · cols) := by
  rcases args with _ | ⟨field, _ | ⟨operator, _ | ⟨first, more⟩⟩⟩
  · rfl
  · rfl
  · rfl
  · obtain ⟨i, col, hcol, hfield, hi⟩ := exists_columns h hfinds
    rw [applyCondition, applyCondition, requireColumn_of_column? hi,
      requireColumn_of_column? hfield]
    cases hop : CompareOp.ofSymbol? operator with
    | none => rfl
    | some op =>
      change filterRows (project t cols) _ _ _ = (t.filterRows _ _ _).map _
      rw [filterRows_of_column? hi hop, filterRows_of_column? hfield hop,
        isSizeColumn_project h hcol]
      refine congrArg Except.ok (project_keep fun row hrow => ?_).symm
      rw [cellAccepts, cellAccepts, getElem?_pick_row ht h hcol hrow]

/-- Rows can be kept by a text they hold before or after columns are picked. -/
lemma applyContains_project (ht : t.Rectangular) (h : Named t cols)
    (hfinds : FindsColumn (project t cols) args) :
    applyContains (project t cols) args = (applyContains t args).map (project · cols) := by
  rcases args with _ | ⟨field, _ | ⟨first, more⟩⟩
  · rfl
  · rfl
  · obtain ⟨i, col, hcol, hfield, hi⟩ := exists_columns h hfinds
    rw [applyContains, applyContains, requireColumn_of_column? hi,
      requireColumn_of_column? hfield]
    refine congrArg Except.ok (project_keep fun row hrow => ?_).symm
    rw [textContains, textContains, getElem?_pick_row ht h hcol hrow]

/-- Rows can be sorted before or after columns are picked. -/
lemma applySort_project (ht : t.Rectangular) (h : Named t cols)
    (hfinds : FindsColumn (project t cols) args) :
    applySort (project t cols) args = (applySort t args).map (project · cols) := by
  rcases args with _ | ⟨field, direction⟩
  · rfl
  · obtain ⟨i, col, hcol, hfield, hi⟩ := exists_columns h hfinds
    rw [applySort, applySort, requireColumn_of_column? hi, requireColumn_of_column? hfield]
    change (parseDirection direction >>= fun descending => .ok (sortTable descending i _)) =
      (parseDirection direction >>= fun descending => .ok (sortTable descending col t)).map _
    cases parseDirection direction with
    | error failure => rfl
    | ok descending => exact congrArg Except.ok (project_sortTable ht h hcol descending).symm

/-- The first rows can be taken before or after columns are picked. -/
lemma applyLimit_project :
    applyLimit (project t cols) args = (applyLimit t args).map (project · cols) := by
  rcases args with _ | ⟨word, more⟩
  · rfl
  · rw [applyLimit, applyLimit]
    cases readInteger? word with
    | none => rfl
    | some n =>
      dsimp only
      split
      · have hrows : (t.rows.map (pick cols)).take n.toNat =
            (t.rows.take n.toNat).map (pick cols) := List.map_take.symm
        exact congrArg (fun rows => Except.ok (Table.mk (pick cols t.headers) rows)) hrows
      · rfl

/-- The filters that find a column among the picked ones, and `limit`. -/
def SuitsColumns (t : Table) (stage : Stage) : Prop :=
  find? stage.name = some limit ∨
    (find? stage.name = some condition ∨ find? stage.name = some contains ∨
      find? stage.name = some sortBy) ∧ FindsColumn t stage.args

/-- A filter that finds its column among the picked ones does to them what it does to the whole
table. -/
lemma exists_process_project {stage : Stage} (ht : t.Rectangular) (h : Named t cols)
    (hstage : SuitsColumns (project t cols) stage) :
    ∃ f, find? stage.name = some f ∧ f ≠ select ∧
      f.process (project t cols) stage.args = (f.process t stage.args).map (project · cols) := by
  rcases hstage with hfind | ⟨hfind | hfind | hfind, hfinds⟩
  · exact ⟨limit, hfind, by decide, applyLimit_project⟩
  · exact ⟨condition, hfind, by decide, applyCondition_project ht h hfinds⟩
  · exact ⟨contains, hfind, by decide, applyContains_project ht h hfinds⟩
  · exact ⟨sortBy, hfind, by decide, applySort_project ht h hfinds⟩

/-- Picking columns and another filter that still finds its column can change places: both orders
have the same table as their result, or fail in the same way. -/
theorem runChain_select_exchange {p : Table} {s f : Stage} (ht : t.Rectangular)
    (hs : find? s.name = some select) (hp : runChain t [s] = .ok p) (hf : SuitsColumns p f) :
    runChain t [f, s] = runChain t [s, f] := by
  rw [runChain_singleton] at hp
  obtain ⟨g, hfind, hselect⟩ := exists_process_of_applyNamed hp
  obtain rfl : select = g := Option.some.inj (hs.symm.trans hfind)
  obtain ⟨cols, hcols, rfl, hproject⟩ := exists_project_of_process hselect
  obtain ⟨g, hfind', hne, hprocess⟩ := exists_process_project ht hcols hf
  have hlast (u : Table) (stage : Stage) :
      runChain u [stage] = applyNamed stage.name u stage.args :=
    runChain_singleton
  rw [runChain, runChain, hp]
  change (applyNamed f.name t f.args >>= fun next => runChain next [s]) =
    runChain (project t cols) [f]
  rw [hlast, applyNamed, applyNamed, hfind']
  dsimp only
  rw [hprocess]
  cases hresult : g.process t f.args with
  | error failure => rfl
  | ok r =>
    have hheaders : r.headers = t.headers := (keepsRows_of_process hne hresult).1
    exact (hlast r s).trans (applyNamed_of_process hs (hproject r hheaders))

/-! ### Columns with one name -/

/-- A table with two columns whose names differ in case only, the first of which holds values of
several kinds. -/
def twoNotes : Table where
  headers := ["Note", "Size", "NOTE"]
  rows := [[{ value := .text "9" }, { value := .size "1.0 KB" }, { value := .integer 3 }],
    [{ value := .integer 10 }, { value := .size "2 B" }, { value := .integer 1 }],
    [{ value := .integer 2 }, { value := .size "1024 B" }, { value := .integer 2 }]]

/-- The columns picked from it, of which two are the same. -/
def pickedNotes : Table where
  headers := ["Size", "Note", "Note"]
  rows := [[{ value := .size "1.0 KB" }, { value := .text "9" }, { value := .text "9" }],
    [{ value := .size "2 B" }, { value := .integer 10 }, { value := .integer 10 }],
    [{ value := .size "1024 B" }, { value := .integer 2 }, { value := .integer 2 }]]

/-- The stage that picks them. -/
def pickNotes : Stage := ⟨"select", ["size,", "note,", "NOTE"]⟩

/-- A stage that sorts the rows by the column picked twice. -/
def sortNotes : Stage := ⟨"sort-by", ["nOtE", "desc"]⟩

/-- In particular a column of several kinds is sorted the same before and after it is picked
twice. -/
theorem runChain_select_exchange_twoNotes :
    twoNotes.Rectangular ∧ runChain twoNotes [pickNotes] = .ok pickedNotes ∧
      SuitsColumns pickedNotes sortNotes ∧
      runChain twoNotes [sortNotes, pickNotes] = runChain twoNotes [pickNotes, sortNotes] := by
  have hrectangular : twoNotes.Rectangular := by
    unfold Table.Rectangular
    decide
  have hselect : runChain twoNotes [pickNotes] = .ok pickedNotes := rfl
  have hsuits : SuitsColumns pickedNotes sortNotes := by
    refine .inr ⟨.inr (.inr rfl), ?_⟩
    rintro _ ⟨⟩
    rfl
  exact ⟨hrectangular, hselect, hsuits, runChain_select_exchange hrectangular rfl hselect hsuits⟩

end Filter

end TableShell
