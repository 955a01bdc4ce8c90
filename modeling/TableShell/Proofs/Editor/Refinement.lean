import TableShell.Proofs.Editor.Runs

/-!
# Editing without offsets

The events that edit a line or move in it do to the line what they would do to a zipper, the
characters before the cursor and those behind it. The line is the image of the zipper after every
run of such events, of any length and from any editor of a session in which no candidates are
tried.
-/

namespace TableShell

/-! ### Strokes -/

/-- An event that edits the line or moves in it. -/
inductive Stroke where
  | insert (c : Char)
  | deleteBackward
  | deleteWordBackward
  | deleteForward
  | endOfInput
  | moveLeft
  | moveRight
  | moveHome
  | moveEnd
  deriving DecidableEq, Repr

/-- The event of a stroke. -/
def Stroke.event : Stroke → Event
  | insert c => .printable c
  | deleteBackward => .backspace
  | deleteWordBackward => .deleteWord
  | deleteForward => .delete
  | endOfInput => .endOfInput
  | moveLeft => .left
  | moveRight => .right
  | moveHome => .home
  | moveEnd => .lineEnd

namespace Zipper

/-- A zipper without characters. -/
def isEmpty (z : Zipper) : Bool :=
  z.left.isEmpty && z.right.isEmpty

/-- What a stroke does to a zipper. The end of input leaves the shell where there are no characters,
and deletes one otherwise. -/
def strike (z : Zipper) : Stroke → Zipper × Outcome
  | .insert c => (z.insert c, .proceed)
  | .deleteBackward => (z.deleteBackward, .proceed)
  | .deleteWordBackward => (z.deleteWordBackward, .proceed)
  | .deleteForward => (z.deleteForward, .proceed)
  | .endOfInput => if z.isEmpty then (z, .exit) else (z.deleteForward, .proceed)
  | .moveLeft => (z.moveLeft, .proceed)
  | .moveRight => (z.moveRight, .proceed)
  | .moveHome => (z.moveHome, .proceed)
  | .moveEnd => (z.moveEnd, .proceed)

/-- What strokes do to a zipper one after the other. -/
def run (z : Zipper) : List Stroke → Zipper × List Outcome
  | [] => (z, [])
  | stroke :: strokes =>
    let (z, outcome) := z.strike stroke
    let (z, outcomes) := z.run strokes
    (z, outcome :: outcomes)

/-- A line is empty if both of its halves are. -/
lemma isEmpty_line (z : Zipper) : z.line.text.isEmpty = z.isEmpty := by
  rw [Bool.eq_iff_iff, String.isEmpty, beq_iff_eq, utf8ByteSize_line, Text.byteLength_eq_zero]
  simp [isEmpty]

end Zipper

namespace Editor

variable {e e' : Editor} {z : Zipper}

/-! ### Single strokes -/

/-- Where no candidates are tried there is nothing to restore. -/
lemma restore_of_cycle?_eq_none (hcycle : e.cycle? = none) : e.restore = e := by
  rw [restore, hcycle]

/-- Where no candidate is tried, the line is edited. -/
lemma restoreOrEdit_of_cycle?_eq_none (hcycle : e.cycle? = none)
    (change : LineBuffer → Option LineBuffer) : e.restoreOrEdit change = e.edit change := by
  rw [restoreOrEdit, hcycle]

/-- An edit of the line is one of the zipper. -/
lemma exists_edit_line {change : LineBuffer → Option LineBuffer} {f : Zipper → Zipper}
    (hchange : LineBuffer.Realizes change f) (hcycle : e.cycle? = none) (hline : e.line = z.line) :
    ∃ e', (e.edit change).map (·, Outcome.proceed) = .ok (e', .proceed) ∧
      e'.line = (f z).line ∧ e'.cycle? = none := by
  refine ⟨{ e with line := (f z).line, walk? := none, armed := false }, ?_, rfl, hcycle⟩
  rw [edit_eq_ok hchange hline]
  rfl

/-- A motion of the cursor is one of the zipper. -/
lemma exists_move_line {motion : LineBuffer → Option LineBuffer} {f : Zipper → Zipper}
    (hmotion : LineBuffer.Realizes motion f) (hline : e.line = z.line) :
    ∃ e', (e.move motion).map (·, Outcome.proceed) = .ok (e', .proceed) ∧
      e'.line = (f z).line ∧ e'.cycle? = none := by
  refine ⟨{ e.settle with line := (f z).line }, ?_, rfl, rfl⟩
  rw [move_eq_ok hmotion hline]
  rfl

/-- What a stroke results in apart from the suggestion, where no candidates are tried. -/
lemma exists_apply_stroke (hcycle : e.cycle? = none) (hline : e.line = z.line) (s : Suggester)
    (history : List String) (stroke : Stroke) :
    ∃ e', e.apply s history stroke.event = .ok (e', (z.strike stroke).2) ∧
      e'.line = (z.strike stroke).1.line ∧ e'.cycle? = none := by
  cases stroke with
  | insert c =>
    rw [Stroke.event, apply, restore_of_cycle?_eq_none hcycle]
    exact exists_edit_line (Zipper.realizes_insert c) hcycle hline
  | deleteBackward =>
    rw [Stroke.event, apply, restoreOrEdit_of_cycle?_eq_none hcycle]
    exact exists_edit_line Zipper.deleteBackward?_line hcycle hline
  | deleteWordBackward =>
    rw [Stroke.event, apply, restoreOrEdit_of_cycle?_eq_none hcycle]
    exact exists_edit_line Zipper.deleteWordBackward?_line hcycle hline
  | deleteForward =>
    rw [Stroke.event, apply, restoreOrEdit_of_cycle?_eq_none hcycle]
    exact exists_edit_line Zipper.deleteForward?_line hcycle hline
  | endOfInput =>
    have hempty : e.line.text.isEmpty = z.isEmpty := by rw [hline, Zipper.isEmpty_line]
    rw [Stroke.event, apply, hempty, Zipper.strike]
    split
    · exact ⟨e, rfl, hline, hcycle⟩
    · rw [restoreOrEdit_of_cycle?_eq_none hcycle]
      exact exists_edit_line Zipper.deleteForward?_line hcycle hline
  | moveLeft => exact exists_move_line Zipper.moveLeft?_line hline
  | moveRight => exact exists_move_line Zipper.moveRight?_line hline
  | moveHome => exact exists_move_line Zipper.realizes_moveHome hline
  | moveEnd => exact exists_move_line Zipper.realizes_moveEnd hline

/-- What a stroke results in, where it has a result. -/
lemma handle_stroke {s : Suggester} {history : List String} {stroke : Stroke} {outcome : Outcome}
    (hcycle : e.cycle? = none) (hline : e.line = z.line)
    (h : e.handle s history stroke.event = .ok (e', outcome)) :
    e'.line = (z.strike stroke).1.line ∧ outcome = (z.strike stroke).2 ∧ e'.cycle? = none := by
  obtain ⟨applied, happly, hstruck, hkept⟩ := exists_apply_stroke hcycle hline s history stroke
  obtain ⟨applied', suggestion, happly', rfl⟩ := exists_apply_of_handle h
  rw [happly] at happly'
  obtain ⟨rfl, rfl⟩ := Prod.mk.inj (Except.ok.inj happly')
  exact ⟨hstruck, rfl, hkept⟩

/-- The end of input leaves an empty line, and everything else, as it is. -/
lemma handle_endOfInput (hline : e.line = z.line) (hempty : z.isEmpty) (s : Suggester)
    (history : List String) : e.handle s history .endOfInput = .ok (e, .exit) := by
  have happly : e.apply s history .endOfInput = .ok (e, .exit) := by
    rw [apply, hline, Zipper.isEmpty_line, if_pos hempty]
  rw [handle_of_apply happly]
  rfl

/-! ### Runs -/

/-- A run of strokes does to the line what it does to the zipper of the line. -/
lemma run_strokes {strokes : List Stroke} {os : List Occurrence} {outcomes : List Outcome}
    (hcycle : e.cycle? = none) (hline : e.line = z.line)
    (hevents : os.map Occurrence.event = strokes.map Stroke.event)
    (hrun : e.run os = .ok (e', outcomes)) :
    e'.line = (z.run strokes).1.line ∧ outcomes = (z.run strokes).2 ∧ e'.cycle? = none := by
  induction strokes generalizing e z os outcomes with
  | nil =>
    obtain rfl : os = [] := by simpa using hevents
    obtain ⟨rfl, rfl⟩ := run_nil_eq_ok.mp hrun
    exact ⟨hline, rfl, hcycle⟩
  | cons stroke strokes ih =>
    obtain ⟨o, os, rfl, hevent, hrest⟩ := List.map_eq_cons_iff.mp hevents
    obtain ⟨next, outcome, others, hstep, hothers, rfl⟩ := run_cons_eq_ok.mp hrun
    rw [hevent] at hstep
    obtain ⟨hnext, rfl, hkept⟩ := handle_stroke hcycle hline hstep
    obtain ⟨hline', rfl, hcycle'⟩ := ih hkept hnext hrest hothers
    exact ⟨hline', rfl, hcycle'⟩

/-- Where no candidates are tried, the line is the image of a zipper, and it is the image of the
zipper after every run of strokes. The end of input leaves an editor without a text as it is. -/
theorem run_refines_zipper (h : Reachable e) (hcycle : e.cycle? = none) :
    (∃ z : Zipper, e.line = z.line) ∧
      ∀ (z : Zipper) (strokes : List Stroke) (os : List Occurrence) (e' : Editor)
        (outcomes : List Outcome),
        e.line = z.line → os.map Occurrence.event = strokes.map Stroke.event →
          e.run os = .ok (e', outcomes) →
            e'.line = (z.run strokes).1.line ∧ outcomes = (z.run strokes).2 ∧ e'.cycle? = none ∧
              ((z.run strokes).1.isEmpty → ∀ s history,
                e'.handle s history .endOfInput = .ok (e', .exit)) := by
  refine ⟨Zipper.exists_line_eq h.invariant.1.sound, ?_⟩
  intro z strokes os e' outcomes hline hevents hrun
  obtain ⟨hline', houtcomes, hcycle'⟩ := run_strokes hcycle hline hevents hrun
  exact ⟨hline', houtcomes, hcycle', fun hempty => handle_endOfInput hline' hempty⟩

/-! ### A run -/

/-- Strokes on both sides of a cursor, up to the end of the line and of the session. -/
def clearingStrokes : List Stroke :=
  [.deleteWordBackward, .insert 'ß', .moveLeft, .deleteForward, .endOfInput, .endOfInput]

/-- The strokes as events without anything to look up. -/
def clearingEvents : List Occurrence :=
  clearingStrokes.map fun stroke => ⟨stroke.event, completingFiles [], []⟩

/-- In particular a run agrees with that of the zipper among letters of two bytes. -/
theorem run_refines_zipper_midEntry :
    Reachable midEntry ∧ midEntry.cycle? = none ∧
      ∃ (z : Zipper) (e' : Editor) (outcomes : List Outcome), midEntry.line = z.line ∧
        midEntry.run clearingEvents = .ok (e', outcomes) ∧
          e'.line = (z.run clearingStrokes).1.line ∧ outcomes = (z.run clearingStrokes).2 := by
  have hline : midEntry.line = (Zipper.mk ['c', 'a', 't', ' '] ['é']).line := by decide +kernel
  have hrun : midEntry.run clearingEvents =
      .ok ({}, [.proceed, .proceed, .proceed, .proceed, .proceed, .exit]) := by decide +kernel
  obtain ⟨hline', houtcomes, -⟩ := (run_refines_zipper reachable_midEntry rfl).2 _ clearingStrokes
    clearingEvents _ _ hline rfl hrun
  exact ⟨reachable_midEntry, rfl, _, _, _, hline, hrun, hline', houtcomes⟩

end Editor

end TableShell
