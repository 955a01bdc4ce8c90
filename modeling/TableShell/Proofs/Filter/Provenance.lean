import Mathlib.Data.List.Perm.Subperm
import Mathlib.Data.List.Range
import TableShell.Filter
import TableShell.Proofs.Fallible

/-!
# Where the cells of a result come from

A chain of filters invents no data. Its result consists of columns of the table that it is given,
and of some rows of that table in some order, none of them more often than it stands there. Cells
are taken over as they are, with their marks.

Columns are looked up in the headers of the table that a stage is given, which an earlier stage may
have picked and repeated. The relation `Derived` between two tables keeps the columns by their
indices in the first table, so that it is transitive, and one lemma for every filter suffices.
-/

namespace TableShell

open scoped List

/-! ### Picking -/

/-- The entries of a list at the given indices. -/
def pick {α : Type} (cols : List Nat) (xs : List α) : List α :=
  cols.filterMap fun col => xs[col]?

section Pick

variable {α : Type} {cols : List Nat} {xs : List α}

/-- A place of the list that is picked first gives the first entry. -/
lemma pick_cons {col : Nat} (h : col < xs.length) :
    pick (col :: cols) xs = xs[col] :: pick cols xs := by
  rw [pick, List.filterMap_cons_some (List.getElem?_eq_getElem h)]
  rfl

/-- As long as all indices are in range, an entry is picked for each of them. -/
lemma getElem?_pick (h : ∀ col ∈ cols, col < xs.length) (i : Nat) :
    (pick cols xs)[i]? = cols[i]?.bind fun col => xs[col]? := by
  induction cols generalizing i with
  | nil => rfl
  | cons col cols ih =>
    obtain ⟨hcol, hcols⟩ := List.forall_mem_cons.mp h
    rw [pick_cons hcol]
    cases i with
    | zero => simp [hcol]
    | succ i => simpa using ih hcols i

/-- As many entries are picked as there are places, if all are places of the list. -/
lemma length_pick (h : ∀ col ∈ cols, col < xs.length) : (pick cols xs).length = cols.length := by
  induction cols with
  | nil => rfl
  | cons col cols ih =>
    obtain ⟨hcol, hcols⟩ := List.forall_mem_cons.mp h
    rw [pick_cons hcol, List.length_cons, List.length_cons, ih hcols]

/-- Picking twice is picking once, from the indices that are picked. -/
lemma pick_pick (h : ∀ col ∈ cols, col < xs.length) (cols' : List Nat) :
    pick cols' (pick cols xs) = pick (pick cols' cols) xs := by
  have hentry : (fun i : Nat => (pick cols xs)[i]?) =
      fun i : Nat => cols[i]?.bind fun col => xs[col]? := by
    funext i
    exact getElem?_pick h i
  rw [pick, hentry, pick, pick, List.filterMap_filterMap]

/-- Picking every index changes nothing. -/
@[simp] lemma pick_range (xs : List α) : pick (List.range xs.length) xs = xs := by
  have hrange : ∀ col ∈ List.range xs.length, col < xs.length := fun _ => List.mem_range.mp
  apply List.ext_getElem?
  intro i
  rw [getElem?_pick hrange]
  by_cases hi : i < xs.length
  · simp [hi]
  · simp [hi]

end Pick

/-! ### Derived tables -/

namespace Table

/-- A table has the given columns of another one, and some of its rows in some order. -/
structure Derived (cols : List Nat) (t r : Table) : Prop where
  cols_lt : ∀ col ∈ cols, col < t.headers.length
  headers_eq : r.headers = pick cols t.headers
  rows_perm : ∃ kept : List Row, kept <+ t.rows ∧ r.rows ~ kept.map (pick cols)

variable {cols cols' : List Nat} {t r u : Table}

/-- A table derived from a rectangular one is rectangular. -/
lemma Derived.rectangular (h : Derived cols t r) (ht : t.Rectangular) : r.Rectangular := by
  obtain ⟨kept, hkept, hrows⟩ := h.rows_perm
  intro row hrow
  obtain ⟨original, horiginal, rfl⟩ := List.mem_map.mp (hrows.mem_iff.mp hrow)
  have hwidth : original.length = t.headers.length := ht original (hkept.subset horiginal)
  have hcols : ∀ col ∈ cols, col < original.length := by
    rw [hwidth]
    exact h.cols_lt
  rw [h.headers_eq, length_pick hcols, length_pick h.cols_lt]

/-- A table has the columns of another one, and some of its rows in some order. -/
def KeepsRows (t r : Table) : Prop :=
  r.headers = t.headers ∧ ∃ kept : List Row, kept <+ t.rows ∧ r.rows ~ kept

/-- Where rows are kept, all columns are. -/
lemma KeepsRows.derived (h : KeepsRows t r) (ht : t.Rectangular) :
    Derived (List.range t.headers.length) t r := by
  obtain ⟨hheaders, kept, hkept, hperm⟩ := h
  refine ⟨fun _ => List.mem_range.mp, by rw [hheaders, pick_range], kept, hkept, ?_⟩
  have hsame : ∀ row ∈ kept, pick (List.range t.headers.length) row = row := by
    intro row hrow
    rw [← ht row (hkept.subset hrow), pick_range]
  rwa [List.map_congr_left hsame, List.map_id']

/-- A table keeps its own rows. -/
lemma keepsRows_refl (t : Table) : KeepsRows t t :=
  ⟨rfl, t.rows, List.Sublist.refl _, List.Perm.refl _⟩

/-- What is derived from a derived table is derived from the first one. -/
lemma Derived.trans (h : Derived cols t r) (h' : Derived cols' r u) (ht : t.Rectangular) :
    Derived (pick cols' cols) t u := by
  obtain ⟨kept, hkept, hrows⟩ := h.rows_perm
  obtain ⟨kept', hkept', hrows'⟩ := h'.rows_perm
  -- The rows that are kept of the second table are the images of rows of the first one.
  obtain ⟨images, hperm, hsublist⟩ := List.exists_perm_sublist hkept' hrows
  obtain ⟨originals, horiginals, rfl⟩ := List.sublist_map_iff.mp hsublist
  refine ⟨?_, ?_, originals, horiginals.trans hkept, ?_⟩
  · intro col hcol
    obtain ⟨i, -, hi⟩ := List.mem_filterMap.mp hcol
    exact h.cols_lt col (List.mem_of_getElem? hi)
  · rw [h'.headers_eq, h.headers_eq, pick_pick h.cols_lt]
  · have hpicked : ∀ row ∈ originals, pick cols' (pick cols row) = pick (pick cols' cols) row := by
      intro row hrow
      have hwidth := ht row ((horiginals.trans hkept).subset hrow)
      exact pick_pick (by rw [hwidth]; exact h.cols_lt) cols'
    calc u.rows
      _ ~ kept'.map (pick cols') := hrows'
      _ ~ (originals.map (pick cols)).map (pick cols') := (hperm.map _).symm
      _ = originals.map (pick (pick cols' cols)) := by
        rw [List.map_map]
        exact List.map_congr_left hpicked

/-! ### Single filters -/

/-- Keeping the rows that meet a condition keeps rows. -/
lemma keepsRows_keep (t : Table) (condition : Row → Bool) : KeepsRows t (t.keep condition) :=
  ⟨rfl, _, List.filter_sublist, List.Perm.refl _⟩

/-- A table without its rows has kept none. -/
lemma keepsRows_emptied (t : Table) : KeepsRows t t.emptied :=
  ⟨rfl, [], List.nil_sublist _, List.Perm.refl _⟩

/-- A column that is found is one of the table. -/
lemma requireColumn_lt {name : String} {col : Nat} (h : t.requireColumn name = .ok col) :
    col < t.headers.length := by
  rw [requireColumn] at h
  cases hcol : t.column? name with
  | none => simp [hcol] at h
  | some found =>
    obtain rfl : found = col := by simpa [hcol] using h
    obtain ⟨hlt, -⟩ := List.findIdx?_eq_some_iff_getElem.mp hcol
    exact hlt

/-- A comparison keeps rows. -/
lemma keepsRows_of_filterRows {field operator literal : String}
    (h : t.filterRows field operator literal = .ok r) : KeepsRows t r := by
  obtain ⟨col, -, h⟩ := bind_eq_ok.mp h
  cases hop : CompareOp.ofSymbol? operator with
  | some op =>
    obtain rfl : t.keep _ = r := by simpa [hop, pure, Except.pure] using h
    exact keepsRows_keep t _
  | none =>
    obtain rfl : t.emptied = r := by simpa [hop, pure, Except.pure] using h
    exact keepsRows_emptied t

end Table

namespace Filter

open Table

variable {t r : Table} {args : List String}

/-- The filter for conditions keeps rows. -/
lemma keepsRows_of_applyCondition (h : applyCondition t args = .ok r) : KeepsRows t r := by
  unfold applyCondition at h
  split at h
  · obtain ⟨-, -, h⟩ := bind_eq_ok.mp h
    split at h
    · cases h
    · exact keepsRows_of_filterRows h
  · cases h

/-- The filter that sorts keeps rows. -/
lemma keepsRows_of_applySort (h : applySort t args = .ok r) : KeepsRows t r := by
  cases args with
  | nil => cases h
  | cons field direction =>
    obtain ⟨col, -, h⟩ := bind_eq_ok.mp h
    obtain ⟨descending, -, h⟩ := bind_eq_ok.mp h
    obtain rfl := Except.ok.inj h
    exact ⟨rfl, t.rows, List.Sublist.refl _, sortRows_perm _ _ _ _⟩

/-- The filter for texts keeps rows. -/
lemma keepsRows_of_applyContains (h : applyContains t args = .ok r) : KeepsRows t r := by
  unfold applyContains at h
  split at h
  · obtain ⟨col, -, h⟩ := bind_eq_ok.mp h
    obtain rfl := Except.ok.inj h
    exact keepsRows_keep t _
  · cases h

/-- The filter that takes the first rows keeps rows. -/
lemma keepsRows_of_applyLimit (h : applyLimit t args = .ok r) : KeepsRows t r := by
  unfold applyLimit at h
  split at h
  · cases h
  · split at h
    · cases h
    · split at h
      · obtain rfl := Except.ok.inj h
        exact ⟨rfl, _, List.take_sublist _ _, List.Perm.refl _⟩
      · cases h

/-- Picking columns keeps every row. -/
lemma derived_of_applySelect (h : applySelect t args = .ok r) : ∃ cols, Derived cols t r := by
  unfold applySelect at h
  dsimp only at h
  split at h
  · cases h
  · obtain ⟨cols, hcols, h⟩ := bind_eq_ok.mp h
    obtain rfl := Except.ok.inj h
    have hlt : ∀ col ∈ cols, col < t.headers.length :=
      forall_mem_of_mapM_eq_ok (fun _ _ => requireColumn_lt) hcols
    exact ⟨cols, hlt, rfl, t.rows, List.Sublist.refl _, List.Perm.refl _⟩

/-- A filter other than `select` keeps all columns. -/
lemma keepsRows_of_process {f : Filter} (hf : f ≠ select) (h : f.process t args = .ok r) :
    KeepsRows t r := by
  cases f with
  | condition => exact keepsRows_of_applyCondition h
  | sortBy => exact keepsRows_of_applySort h
  | select => exact absurd rfl hf
  | contains => exact keepsRows_of_applyContains h
  | limit => exact keepsRows_of_applyLimit h

/-- Every filter derives its result, with all columns unless it is `select`. -/
lemma exists_derived_of_process {f : Filter} (ht : t.Rectangular) (h : f.process t args = .ok r) :
    ∃ cols, Derived cols t r ∧ (f ≠ select → cols = List.range t.headers.length) := by
  by_cases hf : f = select
  · subst hf
    obtain ⟨cols, hcols⟩ := derived_of_applySelect h
    exact ⟨cols, hcols, fun hne => absurd rfl hne⟩
  · exact ⟨_, (keepsRows_of_process hf h).derived ht, fun _ => rfl⟩

/-- What a stage results in is what the filter does that has its name. -/
lemma exists_process_of_applyNamed {name : String} (h : applyNamed name t args = .ok r) :
    ∃ f, find? name = some f ∧ f.process t args = .ok r := by
  rw [applyNamed] at h
  cases hfind : find? name with
  | none => simp [hfind] at h
  | some f =>
    refine ⟨f, rfl, ?_⟩
    cases hprocess : f.process t args with
    | ok table => simpa [hfind, hprocess, Except.mapError] using h
    | error failure => simp [hfind, hprocess, Except.mapError] at h

/-! ### Chains -/

/-- The tables of a chain are derived from each other, and so is the last one from the first. -/
lemma exists_derived_of_chain {stages : List Stage} (ht : t.Rectangular)
    (h : runChain t stages = .ok r) :
    ∃ cols, Derived cols t r ∧
      ((∀ stage ∈ stages, find? stage.name ≠ some select) →
        cols = List.range t.headers.length) := by
  induction stages generalizing t with
  | nil =>
    obtain rfl := Except.ok.inj h
    exact ⟨_, (keepsRows_refl t).derived ht, fun _ => rfl⟩
  | cons stage stages ih =>
    obtain ⟨next, hnext, hrest⟩ := bind_eq_ok.mp h
    obtain ⟨f, hfind, hprocess⟩ := exists_process_of_applyNamed hnext
    obtain ⟨cols, hderived, hall⟩ := exists_derived_of_process ht hprocess
    obtain ⟨cols', hderived', hall'⟩ := ih (hderived.rectangular ht) hrest
    refine ⟨pick cols' cols, hderived.trans hderived' ht, fun hstages => ?_⟩
    obtain ⟨hstage, hstages⟩ := List.forall_mem_cons.mp hstages
    have hf : f ≠ select := fun hf => hstage (hf ▸ hfind)
    have hwidth : next.headers.length = cols.length := by
      rw [hderived.headers_eq, length_pick hderived.cols_lt]
    rw [hall' hstages, hwidth, pick_range, hall hf]

/-- The result of a chain consists of columns and rows of the table that it is given, and of all
columns, in their order, unless one of its stages is `select`. -/
theorem exists_derived_of_runChain {stages : List Stage} (ht : t.Rectangular)
    (h : runChain t stages = .ok r) :
    r.Rectangular ∧ ∃ cols : List Nat,
      (∀ col ∈ cols, col < t.headers.length) ∧ r.headers = pick cols t.headers ∧
      (∃ kept : List Row, kept <+ t.rows ∧ r.rows ~ kept.map (pick cols)) ∧
      ((∀ stage ∈ stages, find? stage.name ≠ some select) →
        cols = List.range t.headers.length ∧ r.headers = t.headers) := by
  obtain ⟨cols, hderived, hall⟩ := exists_derived_of_chain ht h
  refine ⟨hderived.rectangular ht, cols, hderived.cols_lt, hderived.headers_eq,
    hderived.rows_perm, fun hstages => ⟨hall hstages, ?_⟩⟩
  rw [hderived.headers_eq, hall hstages, pick_range]

/-! ### A chain -/

/-- Three files, one of them with a mark. -/
def someFiles : Table where
  headers := ["Name", "Size"]
  rows := [
    [{ value := .text "été" }, { value := .size "2 KB", highlighted := true }],
    [{ value := .text "hiver" }, { value := .size "10 B" }],
    [{ value := .text "Été" }, { value := .size "1 KB" }]]

/-- Columns are picked in another order and one of them twice. -/
def pickingStages : List Stage := [
  { name := "Contains", args := ["name", "É"] },
  { name := "select", args := ["size,", "Name,Size"] },
  { name := "limit", args := ["1"] }]

/-- The one file that is left. -/
def pickedFiles : Table where
  headers := ["Size", "Name", "Size"]
  rows := [[
    { value := .size "2 KB", highlighted := true },
    { value := .text "été" },
    { value := .size "2 KB", highlighted := true }]]

/-- In particular the file that is left is one of the three, with its mark on both copies. -/
theorem exists_derived_of_pickingStages :
    someFiles.Rectangular ∧ runChain someFiles pickingStages = .ok pickedFiles ∧
      pickedFiles.Rectangular ∧ ∃ cols : List Nat,
        (∀ col ∈ cols, col < someFiles.headers.length) ∧
        pickedFiles.headers = pick cols someFiles.headers ∧
        ∃ kept : List Row, kept <+ someFiles.rows ∧ pickedFiles.rows ~ kept.map (pick cols) := by
  have hrectangular : someFiles.Rectangular := by
    unfold Table.Rectangular
    decide
  have hrun : runChain someFiles pickingStages = .ok pickedFiles := by decide +kernel
  obtain ⟨hpicked, cols, hlt, hheaders, hrows, -⟩ := exists_derived_of_runChain hrectangular hrun
  exact ⟨hrectangular, hrun, hpicked, cols, hlt, hheaders, hrows⟩

end Filter

end TableShell
