import TableShell.Filter
import TableShell.Proofs.Fallible
import TableShell.Proofs.Filter.Provenance

/-!
# What single filters result in

A filter looks up its column in the headers and reads its other arguments; both hang on the headers
alone. What it then does to the rows is one operation: it keeps those that satisfy a condition, or
sorts them by the column that it has found. So a filter that has a result on one table has a result
on every table with the same headers, by the same operation.
-/

namespace TableShell

/-- An operator is read back from its sign. -/
lemma CompareOp.ofSymbol?_symbol (op : CompareOp) : ofSymbol? op.symbol = some op := by
  cases op <;> decide

namespace Table

variable {t u : Table} {field : String} {col : Nat}

/-- A column that is found can be required. -/
lemma requireColumn_of_column? (h : t.column? field = some col) :
    t.requireColumn field = .ok col := by
  rw [requireColumn, h]

/-- A column that could be required was found. -/
lemma column?_of_requireColumn (h : t.requireColumn field = .ok col) :
    t.column? field = some col := by
  rw [requireColumn] at h
  cases hcol : t.column? field with
  | none => simp [hcol] at h
  | some found => simpa [hcol] using h

/-- The column that a name leads to is one of the table. -/
lemma column?_lt (h : t.column? field = some col) : col < t.headers.length :=
  requireColumn_lt (requireColumn_of_column? h)

/-- Which column is required depends on the headers only. -/
lemma requireColumn_congr (h : u.headers = t.headers) (field : String) :
    u.requireColumn field = t.requireColumn field := by
  simp only [requireColumn, column?, h]

/-- Whether a column holds sizes depends on the headers only. -/
lemma isSizeColumn_congr (h : u.headers = t.headers) (col : Nat) :
    u.isSizeColumn col = t.isSizeColumn col := by
  simp only [isSizeColumn, h]

/-- A condition on a column that is found keeps the rows whose cells it accepts. -/
lemma filterRows_of_column? {operator literal : String} {op : CompareOp}
    (hcol : t.column? field = some col) (hop : CompareOp.ofSymbol? operator = some op) :
    t.filterRows field operator literal =
      .ok (t.keep (cellAccepts op literal (t.isSizeColumn col) col)) := by
  rw [filterRows, requireColumn_of_column? hcol, hop]
  rfl

/-- Rows can be chosen by two conditions in either order. -/
lemma keep_comm (t : Table) (p q : Row → Bool) : (t.keep p).keep q = (t.keep q).keep p := by
  simp only [keep, List.filter_filter, Bool.and_comm]

end Table

namespace Filter

open Table

variable {t r u : Table} {args : List String} {f : Filter}

/-! ### Operations on rows -/

/-- The table with its rows sorted by a column. -/
def sortTable (descending : Bool) (col : Nat) (t : Table) : Table :=
  { t with rows := sortRows descending (t.isSizeColumn col) col t.rows }

/-- What the filters `where` and `contains` result in. -/
lemma exists_keep_of_process (hf : f = condition ∨ f = contains) (h : f.process t args = .ok r) :
    ∃ p : Row → Bool, r = t.keep p ∧
      ∀ u : Table, u.headers = t.headers → f.process u args = .ok (u.keep p) := by
  rcases hf with rfl | rfl
  · change applyCondition t args = .ok r at h
    unfold applyCondition at h
    split at h
    · next field operator first more =>
      obtain ⟨col, hcol, h⟩ := bind_eq_ok.mp h
      cases hop : CompareOp.ofSymbol? operator with
      | none =>
        rw [hop] at h
        cases h
      | some op =>
        rw [hop] at h
        have hfound := column?_of_requireColumn hcol
        refine ⟨cellAccepts op (" ".intercalate (first :: more)) (t.isSizeColumn col) col, ?_, ?_⟩
        · exact Except.ok.inj (h.symm.trans (filterRows_of_column? hfound hop))
        · intro u hu
          have hcol' : u.requireColumn field = .ok col := by rw [requireColumn_congr hu, hcol]
          change applyCondition u (field :: operator :: first :: more) = _
          rw [applyCondition, hcol', hop, ← isSizeColumn_congr hu]
          exact filterRows_of_column? (column?_of_requireColumn hcol') hop
    · cases h
  · change applyContains t args = .ok r at h
    unfold applyContains at h
    split at h
    · next field first more =>
      obtain ⟨col, hcol, h⟩ := bind_eq_ok.mp h
      refine ⟨_, (Except.ok.inj h).symm, fun u hu => ?_⟩
      change applyContains u (field :: first :: more) = _
      rw [applyContains, requireColumn_congr hu, hcol]
      rfl
    · cases h

/-- What the filter `sort-by` results in. -/
lemma exists_sortTable_of_process (h : sortBy.process t args = .ok r) :
    ∃ field direction descending col, args = field :: direction ∧ t.column? field = some col ∧
      r = sortTable descending col t ∧
      ∀ u : Table, u.headers = t.headers →
        sortBy.process u args = .ok (sortTable descending col u) := by
  cases args with
  | nil => cases h
  | cons field direction =>
    obtain ⟨col, hcol, h⟩ := bind_eq_ok.mp h
    obtain ⟨descending, hdirection, h⟩ := bind_eq_ok.mp h
    refine ⟨field, direction, descending, col, rfl, column?_of_requireColumn hcol,
      (Except.ok.inj h).symm, fun u hu => ?_⟩
    change applySort u (field :: direction) = _
    rw [applySort, requireColumn_congr hu, hcol]
    change (parseDirection direction >>= _) = _
    rw [hdirection]
    rfl

/-! ### Stages -/

/-- A stage hands on what the filter results in that has its name. -/
lemma applyNamed_of_process {name : String} (hfind : find? name = some f)
    (h : f.process t args = .ok r) : applyNamed name t args = .ok r := by
  rw [applyNamed, hfind]
  dsimp only
  rw [h]
  rfl

/-- A chain of one stage is that stage. -/
lemma runChain_singleton {stage : Stage} :
    runChain t [stage] = applyNamed stage.name t stage.args := by
  unfold runChain runChain
  cases applyNamed stage.name t stage.args <;> rfl

/-- A chain of two stages that both have a result. -/
lemma runChain_pair {a b : Stage} {f g : Filter} {s : Table} (ha : find? a.name = some f)
    (hb : find? b.name = some g) (hfirst : f.process t a.args = .ok s)
    (hsecond : g.process s b.args = .ok r) : runChain t [a, b] = .ok r := by
  rw [runChain, applyNamed_of_process ha hfirst]
  exact runChain_singleton.trans (applyNamed_of_process hb hsecond)

end Filter

end TableShell
