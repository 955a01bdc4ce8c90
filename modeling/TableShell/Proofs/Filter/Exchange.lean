import TableShell.Proofs.Filter.Results
import TableShell.Proofs.Table.Order

/-!
# Filters that can change places

Rows can be chosen in any order of the conditions, and before or after they are sorted by a column
that orders them: sorting is stable, so it leaves the rows that are kept in the same order whether
or not other rows stand between them.
-/

namespace TableShell

namespace Filter

open Table

/-- A stage that chooses rows by a condition. -/
def Stage.ChoosesRows (stage : Stage) : Prop :=
  find? stage.name = some condition ∨ find? stage.name = some contains

variable {t r : Table} {col : Nat}

/-- A stage that chooses rows does so on every table with the same headers. -/
lemma exists_keep_of_stage {stage : Stage} (hstage : stage.ChoosesRows)
    (h : runChain t [stage] = .ok r) :
    ∃ f p, find? stage.name = some f ∧ ∀ u : Table, u.headers = t.headers →
      f.process u stage.args = .ok (u.keep p) := by
  rw [runChain_singleton] at h
  obtain ⟨f, hfind, hprocess⟩ := exists_process_of_applyNamed h
  have hf : f = condition ∨ f = contains := by
    unfold Stage.ChoosesRows at hstage
    rw [hfind] at hstage
    exact hstage.imp Option.some.inj Option.some.inj
  obtain ⟨p, -, hkeep⟩ := exists_keep_of_process hf hprocess
  exact ⟨f, p, hfind, hkeep⟩

/-- Rows that a column orders are the same when they are chosen before and after sorting. -/
lemma sortTable_keep (ht : t.Rectangular) (hcol : col < t.headers.length)
    (hord : t.OrdersRows col) (descending : Bool) (p : Row → Bool) :
    sortTable descending col (t.keep p) = (sortTable descending col t).keep p := by
  have hordered := orderedBy_of_ordersRows ht hcol hord
  have hkept := hordered.of_subset (List.filter_subset_self (p := p) t.rows)
  have hrows : sortRows descending (t.isSizeColumn col) col (t.rows.filter p) =
      (sortRows descending (t.isSizeColumn col) col t.rows).filter p := by
    rw [sortRows_eq_mergeSort descending hkept, sortRows_eq_mergeSort descending hordered,
      filter_mergeSort (mayPrecede_trans _ _ _) (mayPrecede_total _ _ _)]
  exact congrArg (fun rows => { t with rows }) hrows

/-- Two stages that choose rows have the same result in either order, and so have a stage that
chooses rows and one that sorts them by a column that orders them. -/
theorem exists_runChain_exchange (ht : t.Rectangular) :
    (∀ a b : Stage, a.ChoosesRows → b.ChoosesRows →
      (∃ r, runChain t [a] = .ok r) → (∃ r, runChain t [b] = .ok r) →
      ∃ r, runChain t [a, b] = .ok r ∧ runChain t [b, a] = .ok r) ∧
    ∀ a b : Stage, a.ChoosesRows → find? b.name = some sortBy →
      (∃ r, runChain t [a] = .ok r) → (∃ r, runChain t [b] = .ok r) →
      (∀ field ∈ b.args.head?, ∀ col ∈ t.column? field, t.OrdersRows col) →
      ∃ r, runChain t [a, b] = .ok r ∧ runChain t [b, a] = .ok r := by
  constructor
  · rintro a b ha hb ⟨_, hchain⟩ ⟨_, hchain'⟩
    obtain ⟨f, p, hfind, hkeep⟩ := exists_keep_of_stage ha hchain
    obtain ⟨g, q, hfind', hkeep'⟩ := exists_keep_of_stage hb hchain'
    refine ⟨(t.keep p).keep q, ?_, ?_⟩
    · exact runChain_pair hfind hfind' (hkeep t rfl) (hkeep' (t.keep p) rfl)
    · rw [keep_comm]
      exact runChain_pair hfind' hfind (hkeep' t rfl) (hkeep (t.keep q) rfl)
  · rintro a b ha hb ⟨_, hchain⟩ ⟨_, hchain'⟩ hord
    obtain ⟨f, p, hfind, hkeep⟩ := exists_keep_of_stage ha hchain
    rw [runChain_singleton] at hchain'
    obtain ⟨g, hfind', hprocess⟩ := exists_process_of_applyNamed hchain'
    obtain rfl : sortBy = g := Option.some.inj (hb.symm.trans hfind')
    obtain ⟨field, direction, descending, col, hargs, hcol, -, hsort⟩ :=
      exists_sortTable_of_process hprocess
    rw [hargs] at hord
    have hcol_ord := hord field rfl col hcol
    refine ⟨(sortTable descending col t).keep p, ?_, ?_⟩
    · rw [← sortTable_keep ht (column?_lt hcol) hcol_ord]
      exact runChain_pair hfind hfind' (hkeep t rfl) (hsort (t.keep p) rfl)
    · exact runChain_pair hfind' hfind (hsort t rfl) (hkeep (sortTable descending col t) rfl)

/-! ### Files by size -/

/-- Four files, of which two are equally large. -/
def fourFiles : Table where
  headers := ["Name", "Size"]
  rows := [[{ value := .text "notes" }, { value := .size "2.0 KB" }],
    [{ value := .text "image" }, { value := .size "1.5 MB" }],
    [{ value := .text "note" }, { value := .size "2048 B" }],
    [{ value := .text "log" }, { value := .size "7 B" }]]

/-- The stage that chooses the files above one kilobyte. -/
def aboveKilobyte : Stage := ⟨"where", ["Size", ">", "1", "kb"]⟩

/-- The stage that chooses the files with a text in their names. -/
def nameContains : Stage := ⟨"contains", ["name", "OTE"]⟩

/-- The stage that sorts the files from the largest down. -/
def largestFirst : Stage := ⟨"sort-by", ["size", "desc"]⟩

/-- In particular files of some size or with some name can be chosen before and after they are
sorted by size. -/
theorem exists_runChain_exchange_fourFiles :
    fourFiles.Rectangular ∧
      (∃ r, runChain fourFiles [aboveKilobyte, nameContains] = .ok r ∧
        runChain fourFiles [nameContains, aboveKilobyte] = .ok r) ∧
      ∃ r, runChain fourFiles [aboveKilobyte, largestFirst] = .ok r ∧
        runChain fourFiles [largestFirst, aboveKilobyte] = .ok r := by
  have hrectangular : fourFiles.Rectangular := by
    unfold Table.Rectangular
    decide
  have hwhere : ∃ r, runChain fourFiles [aboveKilobyte] = .ok r := ⟨_, rfl⟩
  have hcontains : ∃ r, runChain fourFiles [nameContains] = .ok r := ⟨_, rfl⟩
  have hsort : ∃ r, runChain fourFiles [largestFirst] = .ok r := ⟨_, rfl⟩
  have hordered : ∀ field ∈ largestFirst.args.head?, ∀ col ∈ fourFiles.column? field,
      fourFiles.OrdersRows col := by
    rintro _ ⟨⟩ _ ⟨⟩
    exact .inl rfl
  have hexchange := exists_runChain_exchange hrectangular
  exact ⟨hrectangular, hexchange.1 _ _ (.inl rfl) (.inr rfl) hwhere hcontains,
    hexchange.2 _ _ (.inl rfl) rfl hwhere hsort hordered⟩

end Filter

end TableShell
