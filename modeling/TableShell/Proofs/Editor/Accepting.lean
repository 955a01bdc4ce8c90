import TableShell.Proofs.Completion.Suggested
import TableShell.Proofs.Editor.Cycling

/-!
# Taking up what is shown

The suggestion that an editor shows is always the one for its line. It is made anew after every
event, unless the event ends the line or is an escape, and these leave no suggestion or change
nothing at all. So a suggestion is there only with the cursor at the end of the line and while
nothing is tried or walked through, and the keys that take it up find the editor in the state for
which it was made.

A line of the history is taken up as a whole. A candidate for the last word is taken up by the tab
key: the first candidate that it tries is the one that was suggested.
-/

namespace TableShell.Editor

/-! ### What is shown -/

/-- A suggestion is the one for the line as it stands, and nothing is tried or walked through. -/
structure SuggestsFor (e : Editor) (s : Suggester) (x : Suggestion) : Prop where
  suggesting_eq : e.suggesting = true
  cycle?_eq : e.cycle? = none
  walk?_eq : e.walk? = none
  cursor_eq : e.line.cursor = e.line.text.utf8ByteSize
  suggest_eq : s.suggest e.line.text e.line.cursor = .ok (some x)

/-- What is shown, if anything, is the suggestion for the line as it stands. -/
def UpToDate (e : Editor) (s : Suggester) : Prop :=
  ∀ x, e.suggestion = some x → e.SuggestsFor s x

variable {e e' : Editor} {s : Suggester} {x : Suggestion} {history : List String} {event : Event}
  {outcome : Outcome} {os : List Occurrence} {outcomes : List Outcome}

/-- Where nothing is shown, nothing is out of date. -/
lemma upToDate_of_suggestion_eq_none (h : e.suggestion = none) : e.UpToDate s := by
  intro x hx
  rw [h] at hx
  cases hx

/-! ### Single events -/

/-- What is made anew is up to date. -/
lemma upToDate_of_refresh (h : e.refresh s = .ok e') : e'.UpToDate s := by
  unfold refresh at h
  split at h
  · next hidle =>
    obtain ⟨suggestion, hsuggest, rfl⟩ := map_eq_ok.mp h
    simp only [Bool.and_eq_true, Option.isNone_iff_eq_none, LineBuffer.isAtEnd,
      beq_iff_eq] at hidle
    obtain ⟨⟨⟨hsuggesting, hcycle⟩, hwalk⟩, hcursor⟩ := hidle
    intro x hx
    obtain rfl : suggestion = some x := hx
    exact ⟨hsuggesting, hcycle, hwalk, hcursor, hsuggest⟩
  · obtain rfl := Except.ok.inj h
    exact upToDate_of_suggestion_eq_none rfl

/-- After an escape nothing is suggested. -/
lemma suggestion_escape (e : Editor) : e.escape.suggestion = none := by
  unfold escape
  cases e.cycle? with
  | some cycle => rfl
  | none => cases e.walk? <;> rfl

/-- Putting a line into the ring leaves the suggestion alone. -/
lemma suggestion_remember (e : Editor) (line : String) :
    (e.remember line).suggestion = e.suggestion := by
  unfold remember
  split <;> rfl

/-- An event that ends the line drops what is shown, or it changes nothing. -/
lemma suggestion_of_endsLine (h : e.apply s history event = .ok (e', outcome))
    (hends : outcome.endsLine = true) : e'.suggestion = none ∨ e' = e := by
  rw [outcome_of_apply h] at hends
  cases event with
  | enter =>
    unfold apply enter at h
    cases hcycle : e.cycle? with
    | some cycle => simp [outcomeOf, hcycle, Outcome.endsLine] at hends
    | none =>
      rw [hcycle] at h
      obtain ⟨rfl, -⟩ := Prod.mk.inj (Except.ok.inj h)
      exact .inl (suggestion_remember _ _)
  | endOfInput =>
    rw [apply] at h
    split at h
    · obtain ⟨rfl, -⟩ := Prod.mk.inj (Except.ok.inj h)
      exact .inr rfl
    · next hempty => simp [outcomeOf, hempty, Outcome.endsLine] at hends
  | interrupt =>
    obtain ⟨rfl, -⟩ := Prod.mk.inj (Except.ok.inj h)
    exact .inl rfl
  | _ => simp [outcomeOf, Outcome.endsLine] at hends

/-- What is shown stays up to date. -/
lemma UpToDate.handle (h : e.UpToDate s) (hstep : e.handle s history event = .ok (e', outcome)) :
    e'.UpToDate s := by
  obtain ⟨⟨applied, outcome'⟩, happly, -⟩ := bind_eq_ok.mp hstep
  rw [handle_of_apply happly] at hstep
  split at hstep
  · next hdone =>
    obtain ⟨rfl, rfl⟩ := Prod.mk.inj (Except.ok.inj hstep)
    rcases Bool.or_eq_true_iff.mp hdone with hends | hescape
    · rcases suggestion_of_endsLine happly hends with hnone | rfl
      · exact upToDate_of_suggestion_eq_none hnone
      · exact h
    · obtain rfl : event = .escape := eq_of_beq hescape
      obtain ⟨rfl, -⟩ := Prod.mk.inj (Except.ok.inj happly)
      exact upToDate_of_suggestion_eq_none e.suggestion_escape
  · obtain ⟨refreshed, hrefresh, hresult⟩ := map_eq_ok.mp hstep
    obtain ⟨rfl, -⟩ := Prod.mk.inj hresult
    exact upToDate_of_refresh hrefresh

/-- Over a run with the same suggester, what is shown stays up to date. -/
lemma UpToDate.run (h : e.UpToDate s) (hos : ∀ o ∈ os, o.suggester = s)
    (hrun : e.run os = .ok (e', outcomes)) : e'.UpToDate s := by
  induction os generalizing e outcomes with
  | nil =>
    obtain ⟨rfl, -⟩ := run_nil_eq_ok.mp hrun
    exact h
  | cons o os ih =>
    obtain ⟨rfl, hos⟩ := List.forall_mem_cons.mp hos
    obtain ⟨next, outcome, others, hstep, hothers, -⟩ := run_cons_eq_ok.mp hrun
    exact ih (h.handle hstep) hos hothers

/-! ### Taking it up -/

/-- Shift and enter take up a line of the history. A suggestion is made for that line in turn, which
alone can fail. -/
lemma handle_shiftEnter_of_history (hx : e.suggestion = some x) (hsource : x.source = .history)
    (s : Suggester) (history : List String) :
    (∃ e', e.handle s history .shiftEnter = .ok (e', .proceed) ∧ e'.line = .atEnd x.accepted) ∨
      e.handle s history .shiftEnter = .error .insideCharacter ∧
        Context.EndsInWideBlank x.accepted.toList := by
  obtain ⟨ghost, accepted, source⟩ := x
  obtain rfl : source = .history := hsource
  let taken : Editor :=
    { e with line := .atEnd accepted, suggestion := none, walk? := none, armed := false }
  have happly : e.apply s history .shiftEnter = .ok (taken, .proceed) := by
    unfold apply acceptSuggestion
    rw [hx]
  have hhandle : e.handle s history .shiftEnter = (taken.refresh s).map (·, .proceed) := by
    rw [handle_of_apply happly]
    rfl
  rw [hhandle]
  cases hrefresh : taken.refresh s with
  | ok e' =>
    obtain ⟨suggestion, rfl, -⟩ := refresh_eq_ok hrefresh
    exact .inl ⟨_, rfl, rfl⟩
  | error err =>
    obtain ⟨rfl, hwide⟩ := refresh_eq_error hrefresh
    exact .inr ⟨rfl, hwide⟩

/-- Shift and enter change nothing where a candidate is suggested. -/
lemma SuggestsFor.handle_shiftEnter (h : e.SuggestsFor s x) (hx : e.suggestion = some x)
    (hsource : x.source = .context) (history : List String) :
    e.handle s history .shiftEnter = .ok (e, .proceed) := by
  obtain ⟨ghost, accepted, source⟩ := x
  obtain rfl : source = .context := hsource
  have happly : e.apply s history .shiftEnter = .ok (e, .proceed) := by
    unfold apply acceptSuggestion
    rw [hx]
  have hidle : (e.suggesting && e.cycle?.isNone && e.walk?.isNone && e.line.isAtEnd) = true := by
    rw [h.suggesting_eq, h.cycle?_eq, h.walk?_eq, LineBuffer.isAtEnd, beq_iff_eq.mpr h.cursor_eq]
    rfl
  have hrefresh : e.refresh s = .ok e := by
    unfold refresh
    rw [if_pos hidle, h.suggest_eq, ← hx]
    rfl
  rw [handle_of_apply happly, hrefresh]
  rfl

/-- The tab key tries the candidate that is suggested. -/
lemma SuggestsFor.exists_handle_tab (h : e.SuggestsFor s x) (hreachable : Reachable e)
    (hsource : x.source = .context) (history : List String) :
    ∃ e', e.handle s history .tab = .ok (e', .proceed) ∧ e'.line = .atEnd x.accepted := by
  obtain ⟨completion, candidate, head, typed, hcomplete, hbest, hline, hhead, haccepted⟩ :=
    Suggester.exists_complete_of_suggest h.suggest_eq hsource
  obtain ⟨others, hcandidates⟩ := List.head?_eq_some_iff.mp hbest
  have hne : completion.candidates ≠ [] := by simp [hcandidates]
  obtain ⟨e', htab, hcycle⟩ :=
    exists_handle_tab_first hreachable.invariant.1 h.cycle?_eq hcomplete hne history
  obtain ⟨shown, hshown, htext, hcursor⟩ := (hreachable.step htab).exists_shown hcycle
  obtain rfl : candidate = shown := by simpa [hcandidates] using hshown
  have hnothing : Text.fromByte e.line.cursor e.line.text.toList = [] := by
    rw [h.cursor_eq, Text.fromByte_utf8ByteSize]
  have htext' : e'.line.text = x.accepted := by
    rw [htext, hnothing, hline, ← hhead, Text.beforeByte_byteLength_append, haccepted,
      String.ofList_nil, String.append_empty]
  have hcursor' : e'.line.cursor = x.accepted.utf8ByteSize := by
    rw [hcursor, haccepted, String.utf8ByteSize_append, Text.utf8ByteSize_ofList, hhead]
  exact ⟨e', htab, (LineBuffer.mk.injEq ..).mpr ⟨htext', hcursor'⟩⟩

/-! ### Sessions -/

/-- After any events of a session whose suggestions come from the same shell and files, what is
shown is the suggestion for the line, and something is shown of it. It is made with the cursor at
the end of the line, and while nothing is tried or walked through. If it comes from the history, it
continues the line, and shift and enter take it up without submitting it; only the suggestion for
the new line can fail then. If it comes from the context, shift and enter change nothing, and the
tab key takes it up. -/
theorem suggestion_of_run {ringSize : Nat} {suggesting : Bool} {shell : Shell} {fs : FileSystem}
    {base : String} (hs : s.sources = .ofShell shell fs base) (hos : ∀ o ∈ os, o.suggester = s)
    (hrun : run { ringSize, suggesting } os = .ok (e, outcomes)) (hx : e.suggestion = some x) :
    (e.SuggestsFor s x ∧ x.ghost ≠ "") ∧
      (x.source = .history → x.Continues e.line.text ∧ ∀ history,
        (∃ e', e.handle s history .shiftEnter = .ok (e', .proceed) ∧
            e'.line = .atEnd x.accepted) ∨
          e.handle s history .shiftEnter = .error .insideCharacter ∧
            Context.EndsInWideBlank x.accepted.toList) ∧
      (x.source = .context → ∀ history,
        e.handle s history .shiftEnter = .ok (e, .proceed) ∧
          ∃ e', e.handle s history .tab = .ok (e', .proceed) ∧
            e'.line = .atEnd x.accepted) := by
  have hreachable : Reachable e := (Reachable.start ringSize suggesting).run hrun
  have hcontinuing : s.sources.Continuing := by
    rw [hs]
    exact Sources.continuing_ofShell shell fs base
  have hstart : UpToDate { ringSize, suggesting } s := upToDate_of_suggestion_eq_none rfl
  have hmade : e.SuggestsFor s x := hstart.run hos hrun x hx
  refine ⟨⟨hmade, Suggester.ghost_ne_of_suggest hcontinuing hmade.suggest_eq⟩, ?_, ?_⟩
  · intro hsource
    refine ⟨Suggester.continues_of_suggest hcontinuing hmade.suggest_eq hsource, ?_⟩
    intro history
    exact handle_shiftEnter_of_history hx hsource s history
  · intro hsource history
    exact ⟨hmade.handle_shiftEnter hx hsource history,
      hmade.exists_handle_tab hreachable hsource history⟩

/-- A shell that has run two lines. -/
def rememberingShell : Shell where
  history := ((({} : HistoryStore).record "cd src" {}).1.record "sr" {}).1

/-- The suggestions of that shell. -/
def rememberingSuggester : Suggester where
  sources := .ofShell rememberingShell {} ""

/-- The last line is called back, and a letter is typed behind it. -/
def recallingAndTyping : List Occurrence :=
  [.up, .printable 'c'].map fun event => ⟨event, rememberingSuggester, ["sr"]⟩

/-- In the example, the earlier line that holds the word is suggested with an arrow in front of it.
-/
lemma suggest_rememberingSuggester :
    rememberingSuggester.suggest "src" 3 =
      .ok (some { ghost := " → cd src", accepted := "cd src", source := .history }) := by
  have husages : rememberingShell.history.history.usages = [⟨"cd src", 1⟩, ⟨"sr", 1⟩] := by
    decide +kernel
  have hbeginning : (rememberingShell.history.history.usages.filter fun u =>
      History.goesOn "src" u.command) = [] := by
    rw [husages]
    decide +kernel
  have hcontaining : (rememberingShell.history.history.usages.filter fun u =>
      History.holdsInside "src" 3 u.command) = [⟨"cd src", 1⟩] := by
    rw [husages]
    decide +kernel
  have hcontinued : rememberingSuggester.sources.continuations "src"
      rememberingSuggester.options.minSubstringPrefix = ["cd src"] := by
    change rememberingShell.history.history.suggestions "src" 3 = ["cd src"]
    rw [History.suggestions_eq (by decide), History.rankedWhere, History.rankedWhere, hbeginning,
      hcontaining]
    simp [History.ranked]
  have hhistory : rememberingSuggester.historySuggestion? "src" =
      some { ghost := " → cd src", accepted := "cd src", source := .history } := by
    unfold Suggester.historySuggestion?
    rw [if_neg (by decide), hcontinued]
    decide
  unfold Suggester.suggest
  rw [if_neg (by decide), hhistory]

/-- The editor after these events. -/
def typedEditor : Editor where
  ringSize := 2
  line := .atEnd "src"
  suggestion := some { ghost := " → cd src", accepted := "cd src", source := .history }

/-- In the example, the line is called back and typed on, and the suggestion is shown in the end. -/
lemma run_recallingAndTyping :
    run { ringSize := 2 } recallingAndTyping = .ok (typedEditor, [.proceed, .proceed]) := by
  let recalled : Editor :=
    { ringSize := 2, line := .atEnd "sr", walk? := some { snapshot := {}, entries := ["sr"] } }
  let typed : Editor := { ringSize := 2, line := .atEnd "src" }
  have hup : handle { ringSize := 2 } rememberingSuggester ["sr"] .up =
      .ok (recalled, .proceed) := by
    decide +kernel
  have happly : recalled.apply rememberingSuggester ["sr"] (.printable 'c') =
      .ok (typed, .proceed) := by
    decide +kernel
  have hrefresh : typed.refresh rememberingSuggester = .ok typedEditor := by
    unfold refresh
    rw [if_pos (by decide)]
    change Except.map _ (rememberingSuggester.suggest "src" 3) = _
    rw [suggest_rememberingSuggester]
    rfl
  have hprintable : recalled.handle rememberingSuggester ["sr"] (.printable 'c') =
      .ok (typedEditor, .proceed) := by
    rw [handle_of_apply happly, hrefresh]
    rfl
  exact run_cons_eq_ok.mpr
    ⟨_, _, _, hup, run_cons_eq_ok.mpr ⟨_, _, _, hprintable, rfl, rfl⟩, rfl⟩

/-- In particular a line that holds what is typed inside is shown behind an arrow and taken up as it
is. -/
theorem suggestion_of_run_recallingAndTyping :
    run { ringSize := 2 } recallingAndTyping = .ok (typedEditor, [.proceed, .proceed]) ∧
      typedEditor.suggestion =
        some { ghost := " → cd src", accepted := "cd src", source := .history } ∧
      ∃ e', typedEditor.handle rememberingSuggester ["sr"] .shiftEnter = .ok (e', .proceed) ∧
        e'.line = .atEnd "cd src" := by
  have hsame : ∀ o ∈ recallingAndTyping, o.suggester = rememberingSuggester := by
    simp [recallingAndTyping]
  obtain ⟨-, hhistory, -⟩ := suggestion_of_run rfl hsame run_recallingAndTyping rfl
  refine ⟨run_recallingAndTyping, rfl, ?_⟩
  rcases (hhistory rfl).2 ["sr"] with htaken | ⟨-, before, c, after, htext, -, hwide, -⟩
  · exact htaken
  · -- Every character of the line takes one byte.
    have hnarrow : ("cd src".toList.all fun c => c.utf8Size == 1) = true := by decide
    have hc : c ∈ "cd src".toList := by
      rw [htext]
      simp
    rw [beq_iff_eq.mp (List.all_eq_true.mp hnarrow c hc)] at hwide
    exact absurd hwide (lt_irrefl 1)

end TableShell.Editor
