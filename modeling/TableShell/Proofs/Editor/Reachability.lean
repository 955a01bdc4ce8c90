import TableShell.Proofs.Editor.Consistency

/-!
# Reachable editors

Every editor that a session passes through is consistent, whatever the sources of candidates and
the history say at every step. Hence an event can fail for one reason only: it asks for the context
at the end of a text whose last blank or bar is a blank of several bytes.

The invariant that carries the induction is a little stronger. While candidates are tried nothing
is suggested, so that no suggestion can be taken up in place of a candidate. Between the two parts
of an event this does not hold: the tab key shows a candidate first, and the suggestion is dropped
afterwards.
-/

namespace TableShell.Editor

variable {e : Editor}

/-! ### Sessions -/

/-- The editors that a session passes through. The sources of candidates and the history may be
other ones at every event. -/
inductive Reachable : Editor → Prop where
  | start (ringSize : Nat) (suggesting : Bool) : Reachable { ringSize, suggesting }
  | step {e e' : Editor} {s : Suggester} {history : List String} {event : Event}
      {outcome : Outcome} (h : Reachable e) (hstep : e.handle s history event = .ok (e', outcome)) :
      Reachable e'

/-- An event asks for the context at the end of a text whose last blank or bar is a blank of
several bytes: the text before the cursor when the tab key is pressed, or the line for which a
suggestion is made after the event. -/
def AsksInWideBlank (e : Editor) (s : Suggester) (history : List String) (event : Event) : Prop :=
  (event = .tab ∧ e.cycle? = none ∧
      Context.EndsInWideBlank (Text.beforeByte e.line.cursor e.line.text.toList)) ∨
    ∃ e' outcome, e.apply s history event = .ok (e', outcome) ∧
      Context.EndsInWideBlank e'.line.text.toList

/-! ### Single events -/

/-- Where no candidate is tried, an editor is quiet whatever it suggests. -/
lemma quiet_of_cycle?_eq_none (h : e.cycle? = none) : e.Quiet :=
  fun hcycle => absurd h hcycle

/-- After an enter no candidates are tried. -/
lemma enter_cycle? (e : Editor) : e.enter.1.cycle? = none := by
  rw [enter]
  cases e.cycle? with
  | some cycle => rfl
  | none =>
    simp only [remember]
    split <;> rfl

/-- An editing operation lets the line go on. -/
lemma exists_proceed {x : Except ContextError Editor} {event : Event}
    (hx : ∃ e', x = .ok e' ∧ e'.Consistent) (hevent : event ≠ .escape) :
    ∃ e' outcome, x.map (·, Outcome.proceed) = .ok (e', outcome) ∧ e'.Consistent ∧
      (outcome.endsLine = true ∨ event = .escape → e'.Quiet) := by
  obtain ⟨e', rfl, he'⟩ := hx
  refine ⟨e', .proceed, rfl, he', ?_⟩
  rintro (hends | rfl)
  · exact absurd hends (by decide)
  · exact absurd rfl hevent

/-- Every event but the tab key has a result apart from the suggestion. The result is consistent,
and it is quiet already where no suggestion is made for it. -/
lemma Consistent.exists_apply (h : e.Consistent) (hquiet : e.Quiet) (s : Suggester)
    (history : List String) {event : Event} (hevent : event ≠ .tab) :
    ∃ e' outcome, e.apply s history event = .ok (e', outcome) ∧ e'.Consistent ∧
      (outcome.endsLine = true ∨ event = .escape → e'.Quiet) := by
  have hsettled : e.settle.cycle? = none := rfl
  cases event with
  | printable c =>
    obtain ⟨hrestored, hcycle⟩ := h.restore
    exact exists_proceed (hrestored.exists_edit hcycle (Zipper.realizes_insert c)) (by simp)
  | backspace => exact exists_proceed (h.exists_restoreOrEdit Zipper.deleteBackward?_line) (by simp)
  | deleteWord =>
    exact exists_proceed (h.exists_restoreOrEdit Zipper.deleteWordBackward?_line) (by simp)
  | delete => exact exists_proceed (h.exists_restoreOrEdit Zipper.deleteForward?_line) (by simp)
  | tab => exact absurd rfl hevent
  | enter =>
    exact ⟨_, _, rfl, h.enter, fun _ => quiet_of_cycle?_eq_none e.enter_cycle?⟩
  | shiftEnter =>
    exact exists_proceed ⟨_, rfl, h.acceptSuggestion hquiet⟩ (by simp)
  | up => exact exists_proceed (h.settle.exists_older hsettled history) (by simp)
  | down => exact exists_proceed (h.settle.exists_newer hsettled) (by simp)
  | left =>
    exact exists_proceed (h.exists_move Zipper.moveLeft?_line Zipper.moveLeft_append) (by simp)
  | right =>
    exact exists_proceed (h.exists_move Zipper.moveRight?_line Zipper.moveRight_append) (by simp)
  | home =>
    exact exists_proceed (h.exists_move Zipper.realizes_moveHome Zipper.moveHome_append) (by simp)
  | lineEnd =>
    exact exists_proceed (h.exists_move Zipper.realizes_moveEnd Zipper.moveEnd_append) (by simp)
  | escape =>
    obtain ⟨hescaped, hcycle⟩ := h.escape
    exact ⟨_, _, rfl, hescaped, fun _ => quiet_of_cycle?_eq_none hcycle⟩
  | interrupt =>
    exact ⟨_, _, rfl, .resetLine e, fun _ => quiet_of_cycle?_eq_none rfl⟩
  | endOfInput =>
    rw [apply]
    split
    · exact ⟨e, .exit, rfl, h, fun _ => hquiet⟩
    · exact exists_proceed (h.exists_restoreOrEdit Zipper.deleteForward?_line) (by simp)
  | clearScreen =>
    refine ⟨e, .clearScreen, rfl, h, fun _ => hquiet⟩

/-! ### Suggestions -/

/-- Making a suggestion changes nothing else, and none is made while candidates are tried. -/
lemma refresh_eq_ok {e' : Editor} {s : Suggester} (h : e.refresh s = .ok e') :
    ∃ suggestion, e' = { e with suggestion } ∧ (e.cycle? ≠ none → suggestion = none) := by
  rw [refresh] at h
  split at h
  · next hidle =>
    obtain ⟨suggestion, -, rfl⟩ := map_eq_ok.mp h
    refine ⟨suggestion, rfl, fun hcycle => absurd ?_ hcycle⟩
    simp only [Bool.and_eq_true, Option.isNone_iff_eq_none] at hidle
    exact hidle.1.1.2
  · obtain rfl := Except.ok.inj h
    exact ⟨none, rfl, fun _ => rfl⟩

/-- A new suggestion cannot be told only if the line ends in a wide blank. -/
lemma refresh_eq_error {s : Suggester} {err : ContextError} (h : e.refresh s = .error err) :
    err = .insideCharacter ∧ Context.EndsInWideBlank e.line.text.toList := by
  rw [refresh] at h
  split at h
  · exact Suggester.suggest_eq_error (map_eq_error.mp h)
  · exact absurd h (by simp)

/-- An event after what it does to the line: the suggestion is all that is left to make. -/
lemma handle_of_apply {e' : Editor} {s : Suggester} {history : List String} {event : Event}
    {outcome : Outcome} (h : e.apply s history event = .ok (e', outcome)) :
    e.handle s history event =
      if outcome.endsLine || event == .escape then .ok (e', outcome)
      else (e'.refresh s).map (·, outcome) := by
  rw [handle, h]
  simp only [bind, Except.bind]
  split
  · rfl
  · cases e'.refresh s <;> rfl

/-- Where no candidates are tried, an enter submits the line. -/
lemma handle_enter (hcycle : e.cycle? = none) (s : Suggester) (history : List String) :
    e.handle s history .enter =
      .ok (e.resetLine.remember e.line.text, .submit e.line.text) := by
  have happly : e.apply s history .enter =
      .ok (e.resetLine.remember e.line.text, .submit e.line.text) := by
    unfold apply enter
    rw [hcycle]
  rw [handle_of_apply happly]
  rfl

/-- An event is what it does to the line, and a suggestion after it. -/
lemma exists_apply_of_handle {e' : Editor} {s : Suggester} {history : List String} {event : Event}
    {outcome : Outcome} (h : e.handle s history event = .ok (e', outcome)) :
    ∃ applied suggestion, e.apply s history event = .ok (applied, outcome) ∧
      e' = { applied with suggestion } := by
  obtain ⟨⟨applied, outcome'⟩, happly, -⟩ := bind_eq_ok.mp h
  rw [handle_of_apply happly] at h
  split at h
  · obtain ⟨rfl, rfl⟩ := Prod.mk.inj (Except.ok.inj h)
    exact ⟨applied, applied.suggestion, happly, rfl⟩
  · obtain ⟨refreshed, hrefresh, hresult⟩ := map_eq_ok.mp h
    obtain ⟨rfl, rfl⟩ := Prod.mk.inj hresult
    obtain ⟨suggestion, rfl, -⟩ := refresh_eq_ok hrefresh
    exact ⟨applied, suggestion, happly, rfl⟩

/-! ### Outcomes -/

/-- The outcome of an event. It is determined by the editor before the event. -/
def outcomeOf (e : Editor) : Event → Outcome
  | .enter => if e.cycle?.isSome then .proceed else .submit e.line.text
  | .endOfInput => if e.line.text.isEmpty then .exit else .proceed
  | .interrupt => .cancel
  | .clearScreen => .clearScreen
  | _ => .proceed

/-- Only an enter submits, and only where no candidate is tried. -/
lemma outcomeOf_eq_submit {event : Event} {line : String} :
    e.outcomeOf event = .submit line ↔
      event = .enter ∧ e.cycle? = none ∧ e.line.text = line := by
  unfold outcomeOf
  split
  · cases e.cycle? <;> simp
  · cases e.line.text.isEmpty <;> simp
  all_goals simp_all

/-- What an event does has the outcome that is read off the editor before it. -/
lemma outcome_of_apply {e' : Editor} {s : Suggester} {history : List String} {event : Event}
    {outcome : Outcome} (h : e.apply s history event = .ok (e', outcome)) :
    outcome = e.outcomeOf event := by
  have hproceed (x : Except ContextError Editor)
      (hx : x.map (·, Outcome.proceed) = .ok (e', outcome)) : outcome = .proceed := by
    obtain ⟨applied, -, hresult⟩ := map_eq_ok.mp hx
    exact (Prod.mk.inj hresult).2.symm
  cases event with
  | enter =>
    unfold apply enter at h
    unfold outcomeOf
    cases hcycle : e.cycle? with
    | some cycle =>
      rw [hcycle] at h
      exact (Prod.mk.inj (Except.ok.inj h)).2.symm
    | none =>
      rw [hcycle] at h
      exact (Prod.mk.inj (Except.ok.inj h)).2.symm
  | endOfInput =>
    rw [apply] at h
    rw [outcomeOf]
    split at h
    · next hempty =>
      rw [if_pos hempty]
      exact (Prod.mk.inj (Except.ok.inj h)).2.symm
    · next hempty =>
      rw [if_neg hempty]
      exact hproceed _ h
  | shiftEnter => exact (Prod.mk.inj (Except.ok.inj h)).2.symm
  | escape => exact (Prod.mk.inj (Except.ok.inj h)).2.symm
  | interrupt => exact (Prod.mk.inj (Except.ok.inj h)).2.symm
  | clearScreen => exact (Prod.mk.inj (Except.ok.inj h)).2.symm
  | home => exact hproceed (e.move fun b => some b.moveHome) h
  | lineEnd => exact hproceed (e.move fun b => some b.moveEnd) h
  | _ => exact hproceed _ h

/-- The suggestion that is made afterwards does not change the outcome. -/
lemma outcome_of_handle {e' : Editor} {s : Suggester} {history : List String} {event : Event}
    {outcome : Outcome} (h : e.handle s history event = .ok (e', outcome)) :
    outcome = e.outcomeOf event := by
  obtain ⟨applied, suggestion, happly, -⟩ := exists_apply_of_handle h
  exact outcome_of_apply happly

/-! ### Sessions of any length -/

/-- What an event results in where the editor is consistent and quiet. -/
theorem Consistent.handle_cases (h : e.Consistent) (hquiet : e.Quiet) (s : Suggester)
    (history : List String) (event : Event) :
    (∃ e' outcome, e.handle s history event = .ok (e', outcome) ∧ e'.Consistent ∧ e'.Quiet) ∨
      e.handle s history event = .error .insideCharacter ∧ e.AsksInWideBlank s history event := by
  have happly : (∃ e' outcome, e.apply s history event = .ok (e', outcome) ∧ e'.Consistent ∧
        (outcome.endsLine = true ∨ event = .escape → e'.Quiet)) ∨
      e.apply s history event = .error .insideCharacter ∧ event = .tab ∧ e.cycle? = none ∧
        Context.EndsInWideBlank (Text.beforeByte e.line.cursor e.line.text.toList) := by
    by_cases htab : event = .tab
    · subst htab
      rcases h.tab_cases s with hok | ⟨herr, hcycle, hwide⟩
      · exact .inl (exists_proceed hok (by simp))
      · exact .inr ⟨by rw [apply, herr]; rfl, rfl, hcycle, hwide⟩
    · exact .inl (h.exists_apply hquiet s history htab)
  rcases happly with ⟨applied, outcome, happly, hconsistent, hquiet'⟩ | ⟨herr, htab⟩
  · rw [handle_of_apply happly]
    by_cases hdone : outcome.endsLine || event == .escape
    · rw [if_pos hdone]
      exact .inl ⟨applied, outcome, rfl, hconsistent, hquiet' (by simpa using hdone)⟩
    · rw [if_neg hdone]
      cases hrefresh : applied.refresh s with
      | ok e' =>
        obtain ⟨suggestion, rfl, hnone⟩ := refresh_eq_ok hrefresh
        exact .inl ⟨_, outcome, rfl, hconsistent.congr rfl rfl rfl rfl, hnone⟩
      | error err =>
        obtain ⟨rfl, hwide⟩ := refresh_eq_error hrefresh
        exact .inr ⟨rfl, .inr ⟨applied, outcome, happly, hwide⟩⟩
  · refine .inr ⟨?_, .inl htab⟩
    rw [handle, herr]
    rfl

/-- The invariant of sessions. -/
theorem Reachable.invariant (h : Reachable e) : e.Consistent ∧ e.Quiet := by
  induction h with
  | start ringSize suggesting =>
    exact ⟨.of_line (Text.boundary_zero _) rfl rfl, quiet_of_cycle?_eq_none rfl⟩
  | @step e e' s history event outcome _ hstep ih =>
    rcases ih.1.handle_cases ih.2 s history event with ⟨e'', outcome', hok, hresult⟩ | ⟨herr, -⟩
    · rw [hstep] at hok
      cases hok
      exact hresult
    · rw [hstep] at herr
      exact absurd herr (by simp)

/-- Every editor that a session passes through is consistent, and from there every event has a
result unless it asks for a context that cannot be told. -/
theorem consistent_of_reachable (h : Reachable e) :
    (e.Consistent ∧ e.line.cursor ≤ e.line.text.utf8ByteSize) ∧
      ∀ s history event,
        (∃ e' outcome, e.handle s history event = .ok (e', outcome)) ∨
          e.handle s history event = .error .insideCharacter ∧
            e.AsksInWideBlank s history event := by
  obtain ⟨hconsistent, hquiet⟩ := h.invariant
  refine ⟨⟨hconsistent, hconsistent.sound.cursor_le⟩, fun s history event => ?_⟩
  rcases hconsistent.handle_cases hquiet s history event with ⟨e', outcome, hok, -⟩ | herr
  · exact .inl ⟨e', outcome, hok⟩
  · exact .inr herr

/-! ### A session -/

/-- Completion in a directory with the given files. -/
def completingFiles (files : List String) : Suggester where
  sources := {
    commands := [], aliases := [], bookmarks := []
    entries := fun _ _ => files.map fun name => { name, isDirectory := false }
    continuations := fun _ _ => [] }

/-- An entry of the history is shown, and the cursor stands in front of its last letter. -/
def midEntry : Editor where
  line := { text := "cat é", cursor := 4 }
  walk? := some { snapshot := {}, entries := ["cat é"] }

/-- The first of two files is tried in front of the letter. -/
def tryingFile : Editor where
  line := { text := "cat étéé", cursor := 9 }
  cycle? := some {
    typed := { text := "cat é", cursor := 4 }
    candidates := ["été", "éclair"]
    replaceFrom := 4 }

/-- The editor of the example is met in a session: a line is submitted, called back, and the cursor
is moved. -/
lemma reachable_midEntry : Reachable midEntry := by
  have hup : handle {} (completingFiles []) ["cat é"] .up =
      .ok ({ midEntry with line := .atEnd "cat é" }, .proceed) := rfl
  have hleft : handle { midEntry with line := .atEnd "cat é" } (completingFiles []) [] .left =
      .ok (midEntry, .proceed) := rfl
  exact ((Reachable.start 50 true).step hup).step hleft

/-- The editor in which a file is tried is met in a session: a tab is pressed in front of the last
letter of the entry. -/
lemma reachable_tryingFile : Reachable tryingFile := by
  have htab : midEntry.handle (completingFiles ["été", "éclair"]) [] .tab =
      .ok (tryingFile, .proceed) := by decide +kernel
  exact reachable_midEntry.step htab

/-- In particular an editor is consistent that tries a file between letters of two bytes. -/
theorem consistent_tryingFile :
    Reachable tryingFile ∧
      (tryingFile.Consistent ∧
        tryingFile.line.cursor ≤ tryingFile.line.text.utf8ByteSize) ∧
      ∀ s history event,
        (∃ e' outcome, tryingFile.handle s history event = .ok (e', outcome)) ∨
          tryingFile.handle s history event = .error .insideCharacter ∧
            tryingFile.AsksInWideBlank s history event :=
  ⟨reachable_tryingFile, consistent_of_reachable reachable_tryingFile⟩

end TableShell.Editor
