import TableShell.Proofs.Screen.TerminalRow
import TableShell.Screen

/-!
# Redrawing a line

A frame is drawn over the one that was drawn before it. What the two have in common at their start
is kept, the rest is written, and what is left over behind it is cleared. Whatever the row held at
first, after every drawing it looks as if the last frame alone had been written on a blank row.

What carries this from drawing to drawing is `Shows`: if a screen knows of a frame, the row holds
that frame and nothing else. Where the screen knows of none, nothing has to be said of the row,
since everything is written then. The colour in use is the normal one in both cases.

Nothing is assumed of the widths of characters. Only the three drawings at the end are those of a
terminal with the widths of Unicode.
-/

namespace TableShell

open TerminalRow (Writes markAt painted)

namespace Screen

/-! ### The part that is kept -/

/-- Two lines start with the same cells as far as they have them in common. -/
lemma take_common (shown cells : List (Char × Style)) :
    shown.take (common shown cells) = cells.take (common shown cells) := by
  induction shown generalizing cells with
  | nil => simp [common]
  | cons a shown ih =>
    cases cells with
    | nil => simp [common]
    | cons b cells =>
      rw [common]
      split
      · next hsame =>
        rw [List.take_succ_cons, List.take_succ_cons, ih, beq_iff_eq.mp hsame]
      · simp

section Widths

variable [ColumnWidths] {cells shown : List (Char × Style)} {r : TerminalRow} {s : Screen}
  {f : Frame}

/-- In the columns of the cells in common two lines have the same marks. -/
lemma markAt_of_lt_common {i : Nat} (h : i < columns (cells.take (common shown cells))) :
    i < columns shown ∧ markAt shown i = markAt cells i := by
  have hshown := List.take_append_drop (common shown cells) shown
  have hcells := List.take_append_drop (common shown cells) cells
  rw [take_common] at hshown
  rw [← hshown]
  constructor
  · rw [TerminalRow.columns_append]
    omega
  · conv_rhs => rw [← hcells]
    rw [TerminalRow.markAt_append, TerminalRow.markAt_append, if_pos h, if_pos h]

/-! ### One drawing -/

/-- Cells are written from a column on, and what is behind them is cleared. -/
lemma applyAll_rewrite {start cursorColumn : Nat} (hcolour : r.colour = none)
    (hstart : start ≤ lastColumn) (hcursor : cursorColumn ≤ lastColumn) :
    r.applyAll ([.hideCursor, moveTo start] ++ writeCells cells ++
        [.clearToLineEnd, moveTo cursorColumn, .showCursor]) =
      { marks := fun i => if start ≤ i then markAt cells (i - start) else r.marks i
        column := cursorColumn } := by
  obtain ⟨hwrites, hreset⟩ :=
    TerminalRow.writes_writeCells (r := { r with column := start }) hcolour cells
  have hmoved : r.applyAll [.hideCursor, moveTo start] = { r with column := start } := by
    simp [TerminalRow.applyAll, TerminalRow.apply, moveTo, Nat.min_eq_left hstart]
  rw [TerminalRow.applyAll_append, TerminalRow.applyAll_append, hmoved]
  generalize TerminalRow.applyAll { r with column := start } (writeCells cells) = written
    at hwrites hreset
  have hmarks : (fun i => if i < written.column then written.marks i else none) =
      fun i => if start ≤ i then markAt cells (i - start) else r.marks i := by
    have hcolumn : written.column = start + columns cells := hwrites.column_eq
    funext i
    rw [hcolumn, hwrites.marks_eq]
    by_cases hkept : start ≤ i
    · rw [if_pos hkept, if_pos hkept]
      cases hmark : markAt cells (i - start) with
      | none =>
        have hbehind := TerminalRow.markAt_eq_none_iff.mp hmark
        exact if_neg (by omega)
      | some mark =>
        have hwithin : ¬ columns cells ≤ i - start := by
          rw [← TerminalRow.markAt_eq_none_iff, hmark]
          exact Option.some_ne_none mark
        exact if_pos (by omega)
    · rw [if_neg hkept, if_neg hkept]
      exact if_pos (by omega)
  simp only [TerminalRow.applyAll, List.foldl_cons, List.foldl_nil, TerminalRow.apply, moveTo,
    Nat.min_eq_left hcursor, hmarks, hreset]

/-- The row after cells have been brought onto a line: of what was there nothing is left but the
cells in common. -/
lemma applyAll_repaint {cursorColumn : Nat} (hcolour : r.colour = none)
    (hshown : ∀ i < columns shown, r.marks i = markAt shown i)
    (hcells : columns cells ≤ lastColumn) (hcursor : cursorColumn ≤ lastColumn) :
    r.applyAll (repaint shown cells cursorColumn) =
      { marks := markAt cells, column := cursorColumn } := by
  have hsplit := List.take_append_drop (common shown cells) cells
  have hstart : columns (cells.take (common shown cells)) ≤ lastColumn := by
    rw [← hsplit, TerminalRow.columns_append] at hcells
    omega
  have hmarks : ∀ i, markAt cells i =
      if columns (cells.take (common shown cells)) ≤ i then
        markAt (cells.drop (common shown cells)) (i - columns (cells.take (common shown cells)))
      else r.marks i := by
    intro i
    by_cases hkept : columns (cells.take (common shown cells)) ≤ i
    · rw [if_pos hkept]
      conv_lhs => rw [← hsplit, TerminalRow.markAt_append, if_neg (Nat.not_lt.mpr hkept)]
    · obtain ⟨hlt, hsame⟩ := markAt_of_lt_common (Nat.not_le.mp hkept)
      rw [if_neg hkept, hshown i hlt, hsame]
  unfold repaint
  rw [applyAll_rewrite hcolour hstart hcursor, funext hmarks]

/-! ### Drawing after drawing -/

/-- The columns of a frame and of its cursor are ones that the cursor can be moved to. -/
structure Fits (f : Frame) : Prop where
  columns_lt : columns f.cells < lastColumn
  cursorColumn_lt : f.cursorColumn < lastColumn

/-- A row holds what is known to be on the screen, if anything is known, and the normal colour is in
use. -/
structure Shows (s : Screen) (r : TerminalRow) : Prop where
  colour_eq : r.colour = none
  last_eq : ∀ f, s.last = some f → r = painted f

/-- A frame that has been drawn is what is known to be on the screen. -/
lemma last_draw (s : Screen) (f : Frame) : (s.draw f).2.last = some f := by
  unfold draw
  split
  · next hsame => exact beq_iff_eq.mp hsame
  · rfl

/-- Drawing a frame brings it onto the row, whatever was known before. -/
theorem Shows.draw (h : Shows s r) (hfits : Fits f) :
    Shows (s.draw f).2 (r.applyAll (s.draw f).1) := by
  unfold Screen.draw
  split
  · exact h
  · have hshown : ∀ i < columns ((s.last.map Frame.cells).getD []),
        r.marks i = markAt ((s.last.map Frame.cells).getD []) i := by
      intro i hi
      cases hlast : s.last with
      | none =>
        rw [hlast] at hi
        exact absurd hi (Nat.not_lt_zero i)
      | some shown =>
        rw [h.last_eq shown hlast, TerminalRow.painted_eq]
        rfl
    have hrow := applyAll_repaint h.colour_eq hshown (Nat.le_of_lt hfits.columns_lt)
      (Nat.le_of_lt hfits.cursorColumn_lt)
    dsimp only
    rw [hrow]
    refine ⟨rfl, ?_⟩
    intro g hg
    obtain rfl : f = g := Option.some.inj hg
    exact (TerminalRow.painted_eq f).symm

/-- Draw frames one after the other. -/
def drawAll (s : Screen) : List Frame → List TerminalOp × Screen
  | [] => ([], s)
  | f :: rest =>
    let (ops, next) := s.draw f
    let (more, last) := next.drawAll rest
    (ops ++ more, last)

/-- The frame that has been drawn last is what is known to be on the screen. -/
lemma last_drawAll (s : Screen) (frames : List Frame) (last : Frame) :
    (s.drawAll (frames ++ [last])).2.last = some last := by
  induction frames generalizing s with
  | nil => exact last_draw s last
  | cons f rest ih => exact ih (s.draw f).2

/-- Drawing frames one after the other keeps the row and what is known of it together. -/
theorem Shows.drawAll {frames : List Frame} (h : Shows s r) (hfits : ∀ f ∈ frames, Fits f) :
    Shows (s.drawAll frames).2 (r.applyAll (s.drawAll frames).1) := by
  induction frames generalizing s r with
  | nil => exact h
  | cons f rest ih =>
    obtain ⟨hfirst, hrest⟩ := List.forall_mem_cons.mp hfits
    have hnext := ih (h.draw hfirst) hrest
    rw [← TerminalRow.applyAll_append] at hnext
    exact hnext

/-- Whatever a row has held, and wherever its cursor has stood: after any number of frames have been
drawn, beginning with a screen of which nothing is known, the row and its cursor are as if the last
frame alone had been written on a blank row. -/
theorem applyAll_drawAll (marks : Nat → Option Mark) (column : Nat) (frames : List Frame)
    (last : Frame) (hfits : ∀ f ∈ frames ++ [last], Fits f) :
    ({ marks, column } : TerminalRow).applyAll (invalidated.drawAll (frames ++ [last])).1 =
      painted last := by
  have hstart : Shows invalidated { marks, column } := by
    refine ⟨rfl, ?_⟩
    intro f hf
    cases hf
  have hend := hstart.drawAll hfits
  exact hend.last_eq last (last_drawAll invalidated frames last)

end Widths

/-! ### Three drawings -/

/-- A suggestion behind a prompt, a line with wide characters in its place, and a shorter line. -/
def threeFrames : List Frame :=
  [{ spans := [⟨"> c", .normal⟩, ⟨"at notes", .ghost⟩], cursorColumn := 3 },
    { spans := [⟨"> cat ", .normal⟩, ⟨"日本", .highlight⟩], cursorColumn := 10 },
    { spans := [⟨"> cat 日", .normal⟩], cursorColumn := 8 }]

/-- In particular nothing is left of a candidate and of a suggestion that were longer, although the
start of the line is written only once. -/
theorem applyAll_drawAll_threeFrames :
    (∀ f ∈ threeFrames, Fits f) ∧
      ({} : TerminalRow).applyAll (invalidated.drawAll threeFrames).1 =
        painted { spans := [⟨"> cat 日", .normal⟩], cursorColumn := 8 } ∧
      (({} : TerminalRow).applyAll (invalidated.drawAll threeFrames).1).marks 7 =
        some ⟨'日', 1, none⟩ ∧
      (({} : TerminalRow).applyAll (invalidated.drawAll threeFrames).1).marks 8 = none := by
  have hfits : ∀ f ∈ threeFrames, Fits f := by
    simp only [threeFrames, List.forall_mem_cons, List.not_mem_nil, false_imp_iff, implies_true,
      and_true]
    refine ⟨⟨?_, ?_⟩, ⟨?_, ?_⟩, ⟨?_, ?_⟩⟩ <;> decide +kernel
  have hrow := applyAll_drawAll (fun _ => none) 0 (threeFrames.take 2)
    { spans := [⟨"> cat 日", .normal⟩], cursorColumn := 8 } hfits
  have hall : threeFrames.take 2 ++
      [{ spans := [⟨"> cat 日", .normal⟩], cursorColumn := 8 }] = threeFrames := rfl
  rw [hall] at hrow
  refine ⟨hfits, hrow, ?_, ?_⟩
  · rw [hrow, TerminalRow.painted_eq]
    decide +kernel
  · rw [hrow, TerminalRow.painted_eq]
    decide +kernel

end Screen

end TableShell
