import Mathlib.Tactic.Common
import TableShell.Screen.Drawing

/-!
# A row of a terminal

What the terminal operations do to the row that the cursor stands in. A character is written over as
many columns as it takes, in the colour in use, and every other column stays as it is. The row has
no end, and where wide characters are overwritten in part, the rest of them is left.

The widths of characters are those of a terminal of which nothing else is known.

Characters that are written one behind the other stand side by side. `markAt` says what is in a
column then, counted from the first of them, and `Writes` that this is what has become of a row.
-/

namespace TableShell

/-- What stands in a column: a character, the number of its columns before this one, and its
colour. -/
structure Mark where
  char : Char
  part : Nat
  colour : Option Colour
  deriving DecidableEq, Repr

/-- A row of a terminal with the cursor in it. A column without a mark is blank. -/
structure TerminalRow where
  marks : Nat → Option Mark := fun _ => none
  column : Nat := 0
  /-- The colour in use. -/
  colour : Option Colour := none

namespace TerminalRow

/-! ### Runs of one style -/

/-- The characters of runs with their styles. -/
def cellsOfRuns (runs : List (Style × List Char)) : List (Char × Style) :=
  (runs.map fun (style, cs) => cs.map fun c => (c, style)).flatten

/-- Characters are the same before and after they are put together in runs. -/
lemma cellsOfRuns_runs (cells : List (Char × Style)) :
    cellsOfRuns (Screen.runs cells) = cells := by
  induction cells with
  | nil => rfl
  | cons cell rest ih =>
    obtain ⟨c, style⟩ := cell
    rw [Screen.runs]
    cases hruns : Screen.runs rest with
    | nil =>
      rw [hruns] at ih
      rw [← ih]
      rfl
    | cons run others =>
      obtain ⟨next, cs⟩ := run
      rw [hruns] at ih
      rw [← ih]
      dsimp only
      split
      · next hsame =>
        rw [beq_iff_eq.mp hsame]
        rfl
      · rfl

/-! ### Operations -/

variable [ColumnWidths]

/-- Write a character at the cursor and move the cursor behind it. -/
def write (r : TerminalRow) (c : Char) : TerminalRow :=
  { r with
    marks := fun i =>
      if r.column ≤ i ∧ i < r.column + ColumnWidths.char c then
        some { char := c, part := i - r.column, colour := r.colour }
      else r.marks i
    column := r.column + ColumnWidths.char c }

/-- What an operation does to the row. -/
def apply (r : TerminalRow) : TerminalOp → TerminalRow
  | .hideCursor => r
  | .showCursor => r
  | .toColumn column => { r with column }
  | .toTopLeft => { r with column := 0 }
  | .clearToLineEnd => { r with marks := fun i => if i < r.column then r.marks i else none }
  | .clearAll => { r with marks := fun _ => none }
  | .setColour colour => { r with colour := some colour }
  | .resetColour => { r with colour := none }
  | .print text => text.toList.foldl write r

/-- What several operations do to the row in turn. -/
def applyAll (r : TerminalRow) (ops : List TerminalOp) : TerminalRow :=
  ops.foldl apply r

/-- Operations are done one after the other. -/
lemma applyAll_append (r : TerminalRow) (ops more : List TerminalOp) :
    r.applyAll (ops ++ more) = (r.applyAll ops).applyAll more :=
  List.foldl_append

/-! ### Frames -/

/-- Write a text in its style. -/
def paintSpan (r : TerminalRow) (span : Span) : TerminalRow :=
  span.text.toList.foldl write { r with colour := span.style.colour? }

/-- A blank row on which a frame is written, with the cursor in its column. -/
def painted (f : Frame) : TerminalRow :=
  { f.spans.foldl paintSpan {} with column := f.cursorColumn, colour := none }

/-! ### Characters side by side -/

/-- What is in a column of characters that stand side by side. -/
def markAt : List (Char × Style) → Nat → Option Mark
  | [], _ => none
  | (c, style) :: rest, i =>
    if i < ColumnWidths.char c then some { char := c, part := i, colour := style.colour? }
    else markAt rest (i - ColumnWidths.char c)

variable {cells more : List (Char × Style)} {r r' r'' : TerminalRow}

/-- Texts side by side take the columns of both. -/
lemma columns_append (cells more : List (Char × Style)) :
    Screen.columns (cells ++ more) = Screen.columns cells + Screen.columns more := by
  induction cells with
  | nil => simp [Screen.columns]
  | cons cell rest ih =>
    rw [List.cons_append, Screen.columns, Screen.columns, ih, Nat.add_assoc]

/-- Characters take the columns up to their width and no others. -/
lemma markAt_eq_none_iff {i : Nat} : markAt cells i = none ↔ Screen.columns cells ≤ i := by
  induction cells generalizing i with
  | nil => simp [markAt, Screen.columns]
  | cons cell rest ih =>
    obtain ⟨c, style⟩ := cell
    rw [markAt, Screen.columns]
    split
    · simp only [reduceCtorEq, false_iff]
      omega
    · rw [ih]
      omega

/-- Behind the columns of the first text stands the second one. -/
lemma markAt_append (cells more : List (Char × Style)) (i : Nat) :
    markAt (cells ++ more) i =
      if i < Screen.columns cells then markAt cells i
      else markAt more (i - Screen.columns cells) := by
  induction cells generalizing i with
  | nil => simp [Screen.columns]
  | cons cell rest ih =>
    obtain ⟨c, style⟩ := cell
    rw [List.cons_append, markAt, markAt, Screen.columns, ih]
    by_cases hfirst : i < ColumnWidths.char c
    · have hall : i < ColumnWidths.char c + Screen.columns rest := by omega
      rw [if_pos hfirst, if_pos hfirst, if_pos hall]
    · have hrest : i - ColumnWidths.char c < Screen.columns rest ↔
          i < ColumnWidths.char c + Screen.columns rest := by omega
      rw [if_neg hfirst, if_neg hfirst, Nat.sub_sub]
      simp only [hrest]

/-! ### Writing -/

/-- Characters have been written at the cursor, side by side, and the cursor stands behind them. -/
structure Writes (cells : List (Char × Style)) (r r' : TerminalRow) : Prop where
  column_eq : r'.column = r.column + Screen.columns cells
  marks_eq : ∀ i, r'.marks i =
    if r.column ≤ i then (markAt cells (i - r.column)).or (r.marks i) else r.marks i

namespace Writes

/-- Where nothing is written the row stays as it is. -/
lemma nil (r : TerminalRow) : Writes [] r r where
  column_eq := rfl
  marks_eq i := by simp [markAt]

/-- Writing goes on where it has ended. -/
lemma append (h : Writes cells r r') (h' : Writes more r' r'') : Writes (cells ++ more) r r'' where
  column_eq := by rw [h'.column_eq, h.column_eq, columns_append, Nat.add_assoc]
  marks_eq i := by
    rw [h'.marks_eq, h.marks_eq, h.column_eq, markAt_append]
    by_cases hstart : r.column ≤ i
    · by_cases hcells : i - r.column < Screen.columns cells
      · have hmore : ¬ r.column + Screen.columns cells ≤ i := by omega
        rw [if_neg hmore, if_pos hstart, if_pos hcells]
        simp only [hstart, if_true]
      · have hmore : r.column + Screen.columns cells ≤ i := by omega
        have hnone : markAt cells (i - r.column) = none := markAt_eq_none_iff.mpr (by omega)
        rw [if_pos hmore, if_pos hstart, hnone, Option.none_or, if_pos hstart, if_neg hcells,
          Nat.sub_sub]
    · have hmore : ¬ r.column + Screen.columns cells ≤ i := by omega
      rw [if_neg hmore, if_neg hstart, if_neg hstart]

end Writes

/-- A character is written in the colour in use. -/
lemma writes_write {style : Style} (h : r.colour = style.colour?) (c : Char) :
    Writes [(c, style)] r (r.write c) where
  column_eq := rfl
  marks_eq i := by
    simp only [write, markAt, h]
    by_cases hstart : r.column ≤ i
    · have hwidth :
          i < r.column + ColumnWidths.char c ↔ i - r.column < ColumnWidths.char c := by
        omega
      simp only [hstart, hwidth, true_and, if_true]
      split <;> rfl
    · simp only [hstart, false_and, if_false]

/-- The characters of a text are written in the colour in use, which stays. -/
lemma writes_foldl_write {style : Style} (h : r.colour = style.colour?) (cs : List Char) :
    Writes (cs.map fun c => (c, style)) r (cs.foldl write r) ∧
      (cs.foldl write r).colour = r.colour := by
  induction cs generalizing r with
  | nil => exact ⟨.nil r, rfl⟩
  | cons c cs ih =>
    obtain ⟨hrest, hcolour⟩ := ih (r := r.write c) h
    exact ⟨(writes_write h c).append hrest, hcolour⟩

/-! ### Writing runs -/

/-- A run is written in the colour of its style, which is reset behind it. -/
lemma writes_writeRun (h : r.colour = none) (style : Style) (cs : List Char) :
    Writes (cs.map fun c => (c, style)) r
        (r.applyAll (Screen.writeRun style (.ofList cs))) ∧
      (r.applyAll (Screen.writeRun style (.ofList cs))).colour = none := by
  have hprint : ∀ r : TerminalRow, r.apply (.print (.ofList cs)) = cs.foldl write r := by
    intro r
    rw [apply, String.toList_ofList]
  unfold Screen.writeRun
  cases hcolour : style.colour? with
  | none =>
    obtain ⟨hwrites, hkept⟩ := writes_foldl_write (h.trans hcolour.symm) cs
    simp only [applyAll, List.foldl_cons, List.foldl_nil, hprint]
    exact ⟨hwrites, hkept.trans h⟩
  | some colour =>
    obtain ⟨hwrites, -⟩ :=
      writes_foldl_write (r := { r with colour := some colour }) hcolour.symm cs
    simp only [applyAll, List.foldl_cons, List.foldl_nil, hprint]
    exact ⟨⟨hwrites.column_eq, hwrites.marks_eq⟩, rfl⟩

/-- Runs are written one behind the other. -/
lemma writes_runs (h : r.colour = none) (runs : List (Style × List Char)) :
    let ops := (runs.map fun (style, cs) => Screen.writeRun style (.ofList cs)).flatten
    Writes (cellsOfRuns runs) r (r.applyAll ops) ∧ (r.applyAll ops).colour = none := by
  induction runs generalizing r with
  | nil => exact ⟨.nil r, h⟩
  | cons run others ih =>
    obtain ⟨style, cs⟩ := run
    obtain ⟨hfirst, hreset⟩ := writes_writeRun h style cs
    obtain ⟨hothers, hlast⟩ := ih hreset
    simp only [List.map_cons, List.flatten_cons, applyAll_append]
    exact ⟨hfirst.append hothers, hlast⟩

/-- Cells are written as they are, and the colour is reset behind them. -/
theorem writes_writeCells (h : r.colour = none) (cells : List (Char × Style)) :
    Writes cells r (r.applyAll (Screen.writeCells cells)) ∧
      (r.applyAll (Screen.writeCells cells)).colour = none := by
  have hruns := writes_runs h (Screen.runs cells)
  rwa [cellsOfRuns_runs] at hruns

/-! ### Painted frames -/

/-- Spans are written one behind the other. -/
lemma writes_foldl_paintSpan (spans : List Span) (r : TerminalRow) :
    Writes (spans.map fun span => span.text.toList.map fun c => (c, span.style)).flatten r
      (spans.foldl paintSpan r) := by
  induction spans generalizing r with
  | nil => exact .nil r
  | cons span rest ih =>
    obtain ⟨hspan, -⟩ := writes_foldl_write (r := { r with colour := span.style.colour? }) rfl
      span.text.toList
    have hpainted : Writes (span.text.toList.map fun c => (c, span.style)) r (r.paintSpan span) :=
      ⟨hspan.column_eq, hspan.marks_eq⟩
    exact hpainted.append (ih (r.paintSpan span))

/-- On a blank row a frame stands from the first column on. -/
theorem painted_eq (f : Frame) :
    painted f = { marks := markAt f.cells, column := f.cursorColumn } := by
  have hmarks : (f.spans.foldl paintSpan {}).marks = markAt f.cells := by
    funext i
    rw [(writes_foldl_paintSpan f.spans {}).marks_eq, if_pos (Nat.zero_le i), Option.or_none]
    rfl
  rw [painted, hmarks]

end TerminalRow

end TableShell
