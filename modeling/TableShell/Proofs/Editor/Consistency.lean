import TableShell.Editor.Basic
import TableShell.Proofs.Completion.Position
import TableShell.Proofs.Editor.Zipper

/-!
# Consistent editors

What holds of the editor between two events: the cursor stands on a boundary, and the line shows
the current candidate of a cycle, or the current entry of a walk, where there is one. This module
states that invariant and shows for every operation of the editor that it has a result and that
the result is consistent. The one operation that may fail is the completion of a word.
-/

namespace TableShell

/-! ### The invariant -/

/-- The current candidate of a cycle exists and can be put into the line that was typed. -/
structure Cycle.Valid (c : Cycle) : Prop where
  candidates_ne : c.candidates ≠ []
  index_lt : c.index < c.candidates.length
  boundary_replaceFrom : Text.Boundary c.replaceFrom c.typed.text.toList
  sound_typed : c.typed.Sound
  replaceFrom_le : c.replaceFrom ≤ c.typed.cursor
  cursor_le : c.typed.cursor ≤ c.typed.text.utf8ByteSize

/-- A line shows the current candidate of a cycle in place of what was typed of it. -/
structure Cycle.Shows (c : Cycle) (b : LineBuffer) : Prop extends c.Valid where
  text_eq : b.text =
    .ofList (Text.beforeByte c.replaceFrom c.typed.text.toList) ++ c.candidates[c.index] ++
      .ofList (Text.fromByte c.typed.cursor c.typed.text.toList)
  cursor_eq : b.cursor = c.replaceFrom + c.candidates[c.index].utf8ByteSize

/-- A line shows the current entry of a walk, and the line that was left can be returned to. -/
structure Walk.Shows (w : Walk) (b : LineBuffer) : Prop where
  index_lt : w.index < w.entries.length
  text_eq : b.text = w.entries[w.index]
  sound_snapshot : w.snapshot.Sound

namespace Editor

/-- The line, the cycle and the walk of an editor fit each other. -/
structure Consistent (e : Editor) : Prop where
  sound : e.line.Sound
  exclusive : e.cycle? = none ∨ e.walk? = none
  cycling : ∀ c, e.cycle? = some c → e.armed = false ∧ c.Shows e.line
  walking : ∀ w, e.walk? = some w → w.Shows e.line

/-- Nothing is suggested while candidates are tried. -/
def Quiet (e : Editor) : Prop :=
  e.cycle? ≠ none → e.suggestion = none

end Editor

/-! ### Candidates -/

namespace Cycle

/-- A cycle with candidates goes on to one of them. -/
lemma Valid.exists_advance {c : Cycle} (h : c.Valid) : ∃ c', c.advance? = some c' ∧ c'.Valid := by
  have hpos : 0 < c.candidates.length := List.length_pos_of_ne_nil h.candidates_ne
  refine ⟨{ c with index := (c.index + 1) % c.candidates.length }, ?_, ?_⟩
  · rw [advance?, if_neg (by simpa using h.candidates_ne)]
  · exact { h with index_lt := Nat.mod_lt _ hpos }

/-- The start of the replaced part cuts the text before the cursor. -/
lemma Valid.exists_typed_eq {c : Cycle} (h : c.Valid) :
    ∃ head typed right, c.typed = (Zipper.mk (head ++ typed) right).line ∧
      c.replaceFrom = Text.byteLength head := by
  obtain ⟨⟨left, right⟩, hline⟩ := Zipper.exists_line_eq h.sound_typed
  obtain ⟨head, rest, htext, hhead⟩ := h.boundary_replaceFrom
  have hle := h.replaceFrom_le
  rw [hline, Zipper.line_cursor, ← hhead] at hle
  rw [hline, Zipper.line_text, String.toList_ofList] at htext
  rcases List.append_eq_append_iff.mp htext with ⟨extra, rfl, -⟩ | ⟨typed, rfl, -⟩
  · have hextra : extra = [] := by
      rw [Text.byteLength_append] at hle
      exact Text.byteLength_eq_zero.mp (by omega)
    subst hextra
    exact ⟨left, [], right, by rw [List.append_nil, hline], by rw [← hhead, List.append_nil]⟩
  · exact ⟨head, typed, right, hline, hhead.symm⟩

/-- The line with the current candidate in place is sound and shows the candidate. -/
lemma Valid.exists_replaceBack {c : Cycle} (h : c.Valid) :
    ∃ candidate line, c.candidates[c.index]? = some candidate ∧
      c.typed.replaceBack? c.replaceFrom candidate = some line ∧ line.Sound ∧ c.Shows line := by
  obtain ⟨head, typed, right, hline, hfrom⟩ := h.exists_typed_eq
  have hindex := h.index_lt
  refine ⟨c.candidates[c.index], (Zipper.mk (head ++ c.candidates[c.index].toList) right).line,
    List.getElem?_eq_getElem hindex, ?_, Zipper.sound_line _, ⟨h, ?_, ?_⟩⟩
  · rw [hline, hfrom, Zipper.replaceBack?_line]
  · have hbefore : Text.beforeByte (Text.byteLength head) (head ++ typed ++ right) = head := by
      rw [List.append_assoc, Text.beforeByte_byteLength_append]
    rw [hline, hfrom, Zipper.line_text, Zipper.line_cursor, Zipper.line_text,
      String.toList_ofList, hbefore, Text.fromByte_byteLength_append, String.ofList_append,
      String.ofList_append, String.ofList_toList]
  · rw [Zipper.line_cursor, Text.byteLength_append, Text.byteLength_toList, hfrom]

end Cycle

namespace Editor

variable {e : Editor}

/-! ### The line -/

/-- Where nothing is tried or walked through, only the line matters. -/
lemma Consistent.of_line (hsound : e.line.Sound) (hcycle : e.cycle? = none)
    (hwalk : e.walk? = none) : e.Consistent where
  sound := hsound
  exclusive := .inl hcycle
  cycling := by simp [hcycle]
  walking := by simp [hwalk]

/-- The suggestion and the ring do not matter. -/
lemma Consistent.congr {e' : Editor} (h : e.Consistent) (hline : e'.line = e.line)
    (hcycle : e'.cycle? = e.cycle?) (hwalk : e'.walk? = e.walk?) (harmed : e'.armed = e.armed) :
    e'.Consistent := by
  refine ⟨?_, ?_, ?_, ?_⟩
  · rw [hline]
    exact h.sound
  · rw [hcycle, hwalk]
    exact h.exclusive
  · rw [hcycle, hline, harmed]
    exact h.cycling
  · rw [hwalk, hline]
    exact h.walking

/-- While candidates are tried, no earlier lines are walked through. -/
lemma Consistent.walk?_eq_none {c : Cycle} (h : e.Consistent) (hcycle : e.cycle? = some c) :
    e.walk? = none := by
  rcases h.exclusive with hnone | hwalk
  · rw [hcycle] at hnone
    cases hnone
  · exact hwalk

/-- An editor whose line has been dropped is consistent. -/
lemma Consistent.resetLine (e : Editor) : e.resetLine.Consistent :=
  .of_line (Text.boundary_zero _) rfl rfl

/-- Keeping the candidate that is shown keeps the editor consistent. -/
lemma Consistent.settle (h : e.Consistent) : e.settle.Consistent where
  sound := h.sound
  exclusive := .inl rfl
  cycling := by simp [Editor.settle]
  walking := h.walking

/-- Candidates are dropped in favour of what was typed, and then none are tried. -/
lemma Consistent.restore (h : e.Consistent) : e.restore.Consistent ∧ e.restore.cycle? = none := by
  rw [Editor.restore]
  cases hcycle : e.cycle? with
  | none => exact ⟨h, hcycle⟩
  | some cycle =>
    have hsound := (h.cycling cycle hcycle).2.sound_typed
    exact ⟨.of_line hsound rfl (h.walk?_eq_none hcycle), rfl⟩

/-- What an edit results in, said of the zipper of the line. -/
lemma edit_eq_ok {change : LineBuffer → Option LineBuffer} {f : Zipper → Zipper} {z : Zipper}
    (hchange : LineBuffer.Realizes change f) (hline : e.line = z.line) :
    e.edit change = .ok { e with line := (f z).line, walk? := none, armed := false } := by
  rw [edit, hline, hchange z]
  rfl

/-- What moving the cursor results in, said of the zipper of the line. -/
lemma move_eq_ok {motion : LineBuffer → Option LineBuffer} {f : Zipper → Zipper} {z : Zipper}
    (hmotion : LineBuffer.Realizes motion f) (hline : e.line = z.line) :
    e.move motion = .ok { e.settle with line := (f z).line } := by
  rw [move, hline, hmotion z]
  rfl

/-- An operation on the two halves of the line can be carried out where no candidate is tried, and
keeps the editor consistent. -/
lemma Consistent.exists_edit {change : LineBuffer → Option LineBuffer} {f : Zipper → Zipper}
    (h : e.Consistent) (hcycle : e.cycle? = none) (hchange : LineBuffer.Realizes change f) :
    ∃ e', e.edit change = .ok e' ∧ e'.Consistent := by
  obtain ⟨z, hline⟩ := Zipper.exists_line_eq h.sound
  exact ⟨_, edit_eq_ok hchange hline, .of_line (f z).sound_line hcycle rfl⟩

/-- Where candidates are tried the line that was typed returns, and otherwise the line is edited;
either keeps the editor consistent. -/
lemma Consistent.exists_restoreOrEdit {change : LineBuffer → Option LineBuffer}
    {f : Zipper → Zipper} (h : e.Consistent) (hchange : LineBuffer.Realizes change f) :
    ∃ e', e.restoreOrEdit change = .ok e' ∧ e'.Consistent := by
  rw [restoreOrEdit]
  cases hcycle : e.cycle? with
  | none => exact h.exists_edit hcycle hchange
  | some cycle => exact ⟨_, rfl, h.restore.1⟩

/-- Moving the cursor keeps the candidate or the entry that is shown, so a walk goes on. -/
lemma Consistent.exists_move {motion : LineBuffer → Option LineBuffer} {f : Zipper → Zipper}
    (h : e.Consistent) (hmotion : LineBuffer.Realizes motion f)
    (htext : ∀ z, (f z).left ++ (f z).right = z.left ++ z.right) :
    ∃ e', e.move motion = .ok e' ∧ e'.Consistent := by
  obtain ⟨z, hline⟩ := Zipper.exists_line_eq h.sound
  have hkept : (f z).line.text = e.line.text := by
    rw [hline, Zipper.line_text, Zipper.line_text, htext]
  refine ⟨_, move_eq_ok hmotion hline, (f z).sound_line, .inl rfl, by simp [Editor.settle], ?_⟩
  intro w hw
  have hshows := h.walking w hw
  exact { hshows with text_eq := hkept.trans hshows.text_eq }

/-! ### Candidates -/

/-- A valid cycle can be shown. -/
lemma exists_showCandidate {c : Cycle} (hc : c.Valid) (harmed : e.armed = false)
    (hwalk : e.walk? = none) : ∃ e', e.showCandidate c = .ok e' ∧ e'.Consistent := by
  obtain ⟨candidate, line, hcandidate, hline, hsound, hshows⟩ := hc.exists_replaceBack
  refine ⟨{ e with line, cycle? := some c }, ?_, hsound, .inr hwalk, ?_, ?_⟩
  · rw [showCandidate, hcandidate]
    simp only [hline]
    rfl
  · intro c' hc'
    obtain rfl : c = c' := Option.some.inj hc'
    exact ⟨harmed, hshows⟩
  · simp [hwalk]

/-- The candidates for the word at the cursor of a sound line are a valid cycle. -/
lemma valid_of_complete {b : LineBuffer} {s : Suggester} {completion : Completion}
    (hsound : b.Sound) (hcomplete : s.complete b.text b.cursor = .ok completion)
    (hne : completion.candidates ≠ []) :
    Cycle.Valid {
      typed := b, candidates := completion.candidates, replaceFrom := completion.replaceFrom } := by
  obtain ⟨head, typed, hbefore, hhead⟩ := Suggester.exists_replaced_of_complete hcomplete
  have ⟨left, right, htext, hcursor⟩ := hsound
  rw [htext, ← hcursor, Text.beforeByte_byteLength_append] at hbefore
  refine ⟨hne, List.length_pos_of_ne_nil hne, ?_, hsound, ?_, hsound.cursor_le⟩
  · exact ⟨head, typed ++ right, by rw [htext, hbefore, List.append_assoc], hhead⟩
  · simp only [← hcursor, ← hhead, hbefore, Text.byteLength_append]
    exact Nat.le_add_right _ _

/-- The tab key fails only where the context cannot be told, and only before the first
candidate. -/
lemma Consistent.tab_cases (h : e.Consistent) (s : Suggester) :
    (∃ e', e.tab s = .ok e' ∧ e'.Consistent) ∨
      e.tab s = .error .insideCharacter ∧ e.cycle? = none ∧
        Context.EndsInWideBlank (Text.beforeByte e.line.cursor e.line.text.toList) := by
  rw [tab]
  cases hcycle : e.cycle? with
  | some cycle =>
    obtain ⟨harmed, hshows⟩ := h.cycling cycle hcycle
    obtain ⟨next, hnext, hvalid⟩ := hshows.exists_advance
    left
    simp only [hnext]
    exact exists_showCandidate hvalid harmed (h.walk?_eq_none hcycle)
  | none =>
    cases hcomplete : s.complete e.line.text e.line.cursor with
    | error err =>
      obtain ⟨rfl, hwide⟩ := Suggester.complete_eq_error.mp hcomplete
      exact .inr ⟨rfl, rfl, hwide⟩
    | ok completion =>
      left
      by_cases hempty : completion.candidates.isEmpty
      · exact ⟨e, by simp [hempty, bind, Except.bind, pure, Except.pure], h⟩
      · have hne : completion.candidates ≠ [] := by simpa using hempty
        have hvalid := valid_of_complete h.sound hcomplete hne
        simp only [bind, Except.bind, if_neg hempty]
        exact exists_showCandidate hvalid rfl rfl

/-! ### Earlier lines -/

/-- An entry of a walk can be shown where the walk has one. -/
lemma exists_showEntry {w : Walk} (hindex : w.index < w.entries.length)
    (hsnapshot : w.snapshot.Sound) (hcycle : e.cycle? = none) :
    ∃ e', e.showEntry w = .ok e' ∧ e'.Consistent := by
  refine ⟨{ e with line := .atEnd w.entries[w.index], walk? := some w }, ?_,
    LineBuffer.sound_atEnd _, .inl hcycle, by simp [hcycle], ?_⟩
  · rw [showEntry, List.getElem?_eq_getElem hindex]
    rfl
  · intro w' hw'
    obtain rfl : w = w' := Option.some.inj hw'
    exact ⟨hindex, rfl, hsnapshot⟩

/-- Going to an older line meets no entry that is missing, and keeps the editor consistent. -/
lemma Consistent.exists_older (h : e.Consistent) (hcycle : e.cycle? = none)
    (history : List String) : ∃ e', e.older history = .ok e' ∧ e'.Consistent := by
  rw [older]
  cases hwalk : e.walk? with
  | some w =>
    simp only
    by_cases hlast : w.entries.length ≤ w.index + 1
    · exact ⟨e, if_pos hlast, h⟩
    · rw [if_neg hlast]
      exact exists_showEntry (Nat.lt_of_not_le hlast) (h.walking w hwalk).sound_snapshot hcycle
  | none =>
    simp only
    by_cases hempty : (e.walkEntries history).isEmpty
    · exact ⟨e, if_pos hempty, h⟩
    · rw [if_neg hempty]
      have hpos : 0 < (e.walkEntries history).length := by
        exact List.length_pos_of_ne_nil (by simpa using hempty)
      exact exists_showEntry hpos h.sound hcycle

/-- Going to a newer line meets no entry that is missing, and keeps the editor consistent. -/
lemma Consistent.exists_newer (h : e.Consistent) (hcycle : e.cycle? = none) :
    ∃ e', e.newer = .ok e' ∧ e'.Consistent := by
  rw [newer]
  cases hwalk : e.walk? with
  | none => exact ⟨e, rfl, h⟩
  | some w =>
    have hshows := h.walking w hwalk
    simp only
    by_cases hfirst : w.index == 0
    · exact ⟨_, if_pos hfirst, .of_line hshows.sound_snapshot hcycle rfl⟩
    · rw [if_neg hfirst]
      have hindex : w.index - 1 < w.entries.length :=
        Nat.lt_of_le_of_lt (Nat.sub_le _ _) hshows.index_lt
      exact exists_showEntry hindex hshows.sound_snapshot hcycle

/-! ### Single events -/

/-- Putting a line into the ring keeps the editor consistent. -/
lemma Consistent.remember (h : e.Consistent) (line : String) : (e.remember line).Consistent := by
  rw [Editor.remember]
  split
  · exact h.congr rfl rfl rfl rfl
  · exact h

/-- An enter keeps the editor consistent, whether it submits the line or takes a candidate. -/
lemma Consistent.enter (h : e.Consistent) : e.enter.1.Consistent := by
  rw [Editor.enter]
  cases e.cycle? with
  | some cycle => exact ⟨h.sound, .inl rfl, by simp, h.walking⟩
  | none => exact (Consistent.resetLine e).remember e.line.text

/-- A suggestion is taken up only where no candidates are tried. -/
lemma Consistent.acceptSuggestion (h : e.Consistent) (hquiet : e.Quiet) :
    e.acceptSuggestion.Consistent := by
  rw [Editor.acceptSuggestion]
  split
  · next hsuggestion =>
    have hcycle : e.cycle? = none := by
      by_contra hcycle
      rw [hquiet hcycle] at hsuggestion
      exact absurd hsuggestion (by simp)
    exact .of_line (LineBuffer.sound_atEnd _) hcycle rfl
  · exact h

/-- After an escape nothing is tried any more. -/
lemma Consistent.escape (h : e.Consistent) : e.escape.Consistent ∧ e.escape.cycle? = none := by
  rw [Editor.escape]
  cases hcycle : e.cycle? with
  | some cycle =>
    obtain ⟨hrestored, hnone⟩ := h.restore
    exact ⟨hrestored.congr rfl rfl rfl rfl, hnone⟩
  | none =>
    cases hwalk : e.walk? with
    | some w => exact ⟨.of_line (h.walking w hwalk).sound_snapshot rfl rfl, rfl⟩
    | none => exact ⟨.of_line h.sound rfl rfl, rfl⟩

end Editor

end TableShell
