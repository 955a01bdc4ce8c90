import TableShell.Proofs.Editor.Cycling
import TableShell.Proofs.Editor.Refinement
import TableShell.Proofs.Editor.Ring

/-!
# Dropping candidates

Trying candidates leaves no trace. However often the tab key has been pressed, an event that drops
the candidate returns to the line as it was before the first press, and a character that is typed
goes into that line as if the key had not been pressed at all. All that the first press takes away
for good is a walk through earlier lines and an enter that would have submitted the line.

The editor is known while candidates are tried: its cycle keeps the line that was typed, and the
rest is either the same as before the first press or empty.
-/

namespace TableShell.Editor

/-- The events that drop the candidate which a line shows. The end of input leaves the shell where
the line is empty. -/
inductive Drops (shown : LineBuffer) : Event → Prop where
  | backspace : Drops shown .backspace
  | deleteWord : Drops shown .deleteWord
  | delete : Drops shown .delete
  | escape : Drops shown .escape
  | endOfInput (h : shown.text.isEmpty = false) : Drops shown .endOfInput

/-- From the editor `tried`, in which a candidate is shown, there is a way back to `e`. An event
that drops the candidate returns to the line of `e`. Typing a character does what it does in `e`,
and fails where it fails there. -/
structure ReturnsTo (tried e : Editor) : Prop where
  dropping : ∀ event, Drops tried.line event → ∀ s history, ∃ suggestion,
    tried.handle s history event =
      .ok ({ e with cycle? := none, walk? := none, armed := false, suggestion }, .proceed)
  typing : ∀ c s history,
    tried.handle s history (.printable c) = e.handle s history (.printable c)

variable {e tried : Editor} {c : Cycle} {completion : Completion} {s : Suggester}
  {history : List String} {event : Event} {later : List Occurrence}

/-! ### The editor while candidates are tried -/

/-- Dropping a candidate restores everything but the walk and the enter that were given up for it.
-/
lemma restore_of_cycle? (hcycle : tried.cycle? = some c) (htyped : c.typed = e.line)
    (hconsistent : tried.Consistent) (hsame : e.SameRing tried) :
    tried.restore =
      { e with
        cycle? := none, walk? := none, armed := false, suggestion := tried.suggestion } := by
  have harmed := (hconsistent.cycling c hcycle).1
  have hwalk := hconsistent.walk?_eq_none hcycle
  obtain ⟨hring, hringSize, hsuggesting⟩ := hsame
  unfold restore
  simp only [hcycle, htyped, hwalk, harmed, hring, hringSize, hsuggesting]

/-- What is done to the line and to the candidates when a candidate is dropped. -/
lemma apply_of_drops (hcycle : tried.cycle? = some c) (hevent : Drops tried.line event)
    (s : Suggester) (history : List String) :
    ∃ suggestion,
      tried.apply s history event = .ok ({ tried.restore with suggestion }, .proceed) := by
  have hrestore : ∀ change, tried.restoreOrEdit change = .ok tried.restore := by
    intro change
    unfold restoreOrEdit
    rw [hcycle]
  cases hevent with
  | backspace => exact ⟨_, by rw [apply, hrestore]; rfl⟩
  | deleteWord => exact ⟨_, by rw [apply, hrestore]; rfl⟩
  | delete => exact ⟨_, by rw [apply, hrestore]; rfl⟩
  | escape =>
    refine ⟨none, ?_⟩
    rw [apply, escape, hcycle]
  | endOfInput hshown => exact ⟨_, by rw [apply, hshown, hrestore]; rfl⟩

/-! ### Suggestions -/

/-- The suggestion that is shown does not matter to the next one. -/
lemma refresh_with_suggestion (e : Editor) (s : Suggester) (suggestion : Option Suggestion) :
    refresh { e with suggestion } s = e.refresh s := rfl

/-- A suggestion can be made unless the line ends at the cursor and in a blank of several bytes. -/
lemma exists_refresh (s : Suggester)
    (h : ¬ Context.EndsInWideBlank (Text.beforeByte e.line.cursor e.line.text.toList)) :
    ∃ suggestion, e.refresh s = .ok { e with suggestion } := by
  cases hrefresh : e.refresh s with
  | ok e' =>
    obtain ⟨suggestion, rfl, -⟩ := refresh_eq_ok hrefresh
    exact ⟨suggestion, rfl⟩
  | error err =>
    exfalso
    have hwide := (refresh_eq_error hrefresh).2
    rw [refresh] at hrefresh
    split at hrefresh
    · next hidle =>
      have hcursor : e.line.cursor = e.line.text.utf8ByteSize := by
        simp only [Bool.and_eq_true, LineBuffer.isAtEnd, beq_iff_eq] at hidle
        exact hidle.2
      rw [hcursor, Text.beforeByte_utf8ByteSize] at h
      exact h hwide
    · exact absurd hrefresh (by simp)

/-! ### Events after the tab key -/

/-- While candidates are tried for a line, there is a way back to the editor in which they were
asked for. -/
lemma returnsTo_of_cycle? (hsound : e.line.Sound) (hnone : e.cycle? = none)
    (hnarrow : ¬ Context.EndsInWideBlank (Text.beforeByte e.line.cursor e.line.text.toList))
    (hcycle : tried.cycle? = some c) (htyped : c.typed = e.line) (hconsistent : tried.Consistent)
    (hsame : e.SameRing tried) : tried.ReturnsTo e := by
  have hrestore := restore_of_cycle? hcycle htyped hconsistent hsame
  constructor
  · intro event hevent s history
    obtain ⟨kept, happly⟩ := apply_of_drops hcycle hevent s history
    rw [hrestore] at happly
    rw [handle_of_apply happly]
    by_cases hescape : event = .escape
    · exact ⟨kept, by simp [hescape]⟩
    · obtain ⟨suggestion, hrefresh⟩ := exists_refresh
        (e := { e with cycle? := none, walk? := none, armed := false, suggestion := kept })
        s hnarrow
      refine ⟨suggestion, ?_⟩
      rw [if_neg (by simp [hescape, Outcome.endsLine]), hrefresh]
      rfl
  · intro c s history
    obtain ⟨z, hline⟩ := Zipper.exists_line_eq hsound
    let typed : Editor := { e with line := (z.insert c).line, walk? := none, armed := false }
    have happly : e.apply s history (.printable c) = .ok (typed, .proceed) := by
      rw [apply, restore_of_cycle?_eq_none hnone, edit_eq_ok (Zipper.realizes_insert c) hline]
      rfl
    have happly' : tried.apply s history (.printable c) =
        .ok ({ typed with suggestion := tried.suggestion }, .proceed) := by
      have hedit :=
        edit_eq_ok (e := tried.restore) (Zipper.realizes_insert c) (by rw [hrestore, hline])
      rw [apply, hedit, hrestore, ← hnone]
      rfl
    rw [handle_of_apply happly, handle_of_apply happly', refresh_with_suggestion]
    rfl

/-- From a session in which no candidates are tried, the candidates for a word are dropped without
a trace after any number of presses of the tab key. -/
theorem exists_tabs_returning (h : Reachable e) (hcycle : e.cycle? = none)
    (hcomplete : s.complete e.line.text e.line.cursor = .ok completion)
    (hne : completion.candidates ≠ []) (hlater : OnlyTabs later) (history : List String) :
    ∃ tried outcomes, e.run (⟨.tab, s, history⟩ :: later) = .ok (tried, outcomes) ∧
      tried.cycle?.isSome ∧ tried.ReturnsTo e := by
  have hsound := h.invariant.1.sound
  obtain ⟨first, htab, hfirst⟩ := exists_handle_tab_first h.invariant.1 hcycle hcomplete hne history
  obtain ⟨tried, outcomes, hlast, htried⟩ := exists_run_onlyTabs (h.step htab) hne hfirst hlater
  have hrun : e.run (⟨.tab, s, history⟩ :: later) = .ok (tried, .proceed :: outcomes) :=
    run_cons_eq_ok.mpr ⟨first, .proceed, outcomes, htab, hlast, rfl⟩
  refine ⟨tried, .proceed :: outcomes, hrun, by simp [htried], ?_⟩
  have hsame : e.SameRing tried := by
    refine sameRing_of_run (List.forall_mem_cons.mpr ⟨by simp, fun o ho => ?_⟩) hrun
    rcases hlater o ho with htab | hclear
    · simp [htab]
    · simp [hclear]
  have hnarrow : ¬ Context.EndsInWideBlank (Text.beforeByte e.line.cursor e.line.text.toList) := by
    intro hwide
    have herr : s.complete e.line.text e.line.cursor = .error .insideCharacter :=
      Suggester.complete_eq_error.mpr ⟨rfl, hwide⟩
    rw [hcomplete] at herr
    exact absurd herr (by simp)
  exact returnsTo_of_cycle? hsound hcycle hnarrow htried rfl (h.run hrun).invariant.1 hsame

/-! ### A run -/

/-- The second of two files is tried in front of the letter. -/
def tryingSecondFile : Editor where
  line := { text := "cat éclairé", cursor := 11 }
  cycle? := some {
    typed := { text := "cat é", cursor := 4 }
    candidates := ["été", "éclair"]
    index := 1
    replaceFrom := 4 }

/-- In particular the second of two files is dropped again in front of a letter of two bytes. -/
theorem exists_tabs_returning_midEntry :
    Reachable midEntry ∧ midEntry.cycle? = none ∧
      (completingFiles ["été", "éclair"]).complete midEntry.line.text midEntry.line.cursor =
        .ok midEntryCompletion ∧
      midEntryCompletion.candidates ≠ [] ∧ OnlyTabs [⟨.tab, completingFiles [], []⟩] ∧
      midEntry.run [⟨.tab, completingFiles ["été", "éclair"], []⟩, ⟨.tab, completingFiles [], []⟩] =
        .ok (tryingSecondFile, [.proceed, .proceed]) ∧
      Drops tryingSecondFile.line .endOfInput ∧ tryingSecondFile.ReturnsTo midEntry := by
  have hcomplete : (completingFiles ["été", "éclair"]).complete midEntry.line.text
      midEntry.line.cursor = .ok midEntryCompletion := by decide +kernel
  have hlater : OnlyTabs [⟨.tab, completingFiles [], []⟩] := by simp [OnlyTabs]
  have hrun : midEntry.run
      [⟨.tab, completingFiles ["été", "éclair"], []⟩, ⟨.tab, completingFiles [], []⟩] =
        .ok (tryingSecondFile, [.proceed, .proceed]) := by decide +kernel
  obtain ⟨tried, outcomes, hrun', -, hreturns⟩ :=
    exists_tabs_returning reachable_midEntry rfl hcomplete (by decide) hlater []
  rw [hrun] at hrun'
  obtain ⟨rfl, -⟩ := Prod.mk.inj (Except.ok.inj hrun')
  exact ⟨reachable_midEntry, rfl, hcomplete, by decide, hlater, hrun,
    .endOfInput (by decide +kernel), hreturns⟩

end TableShell.Editor
