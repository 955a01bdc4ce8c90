import TableShell.Proofs.Editor.Runs

/-!
# Trying candidates

Pressing the tab key again and again shows the candidates for a word one after the other, and after
the last one the first again. Each candidate stands in the line that was typed, not in place of the
one that was shown before. An enter takes the candidate that is shown, and a second one submits the
line.

The cycle carries the proof. How many candidates have been passed determines it, and since the
editor is consistent it determines the line.
-/

namespace TableShell

/-- The cycle through the candidates of a completion after `passed` of them have been passed. -/
def Completion.cycle (completion : Completion) (typed : LineBuffer) (passed : Nat) : Cycle where
  typed
  candidates := completion.candidates
  index := passed % completion.candidates.length
  replaceFrom := completion.replaceFrom

/-- The next candidate is the one after those that have been passed, also after the last one. -/
lemma Completion.advance?_cycle {completion : Completion} (hne : completion.candidates ≠ [])
    (typed : LineBuffer) (passed : Nat) :
    (completion.cycle typed passed).advance? = some (completion.cycle typed (passed + 1)) := by
  have hempty : ¬ (completion.cycle typed passed).candidates.isEmpty := by
    simpa [Completion.cycle] using hne
  unfold Cycle.advance?
  rw [if_neg hempty]
  simp only [Completion.cycle, Nat.mod_add_mod]

namespace Editor

/-! ### Events that keep trying -/

/-- The number of times that the tab key is pressed. -/
def tabPresses (os : List Occurrence) : Nat :=
  os.countP fun o => o.event == .tab

/-- Nothing happens but that the tab key is pressed or the screen is cleared. -/
def OnlyTabs (os : List Occurrence) : Prop :=
  ∀ o ∈ os, o.event = .tab ∨ o.event = .clearScreen

/-- An enter takes what the line shows and keeps it, and the next enter submits it. -/
def TakenByEnter (e : Editor) : Prop :=
  ∀ (s : Suggester) (history : List String) (e' : Editor) (outcome : Outcome),
    e.handle s history .enter = .ok (e', outcome) →
      outcome = .proceed ∧ e'.line = e.line ∧ e'.cycle? = none ∧ e'.armed = true ∧
        ∀ s history, ∃ e'', e'.handle s history .enter = .ok (e'', .submit e.line.text)

variable {e e' : Editor} {c : Cycle} {completion : Completion} {s : Suggester}
  {history : List String} {os : List Occurrence} {outcome : Outcome} {outcomes : List Outcome}

/-! ### Single events -/

/-- Showing a candidate makes its cycle the current one. -/
lemma cycle?_showCandidate (h : e.showCandidate c = .ok e') : e'.cycle? = some c := by
  unfold showCandidate at h
  cases hcandidate : c.candidates[c.index]? with
  | none =>
    rw [hcandidate] at h
    obtain rfl := Except.ok.inj h
    rfl
  | some candidate =>
    rw [hcandidate] at h
    obtain ⟨line, -, h⟩ := bind_eq_ok.mp h
    obtain rfl := Except.ok.inj h
    rfl

/-- Where the tab key has shown a candidate, nothing can fail any more and nothing is suggested. -/
lemma handle_tab (htab : e.tab s = .ok e') (hcycle : e'.cycle? = some c) :
    e.handle s history .tab = .ok ({ e' with suggestion := none }, .proceed) := by
  have happly : e.apply s history .tab = .ok (e', .proceed) := by
    unfold apply
    rw [htab]
    rfl
  have hrefresh : e'.refresh s = .ok { e' with suggestion := none } := by
    unfold refresh
    simp [hcycle]
  rw [handle_of_apply happly, hrefresh]
  rfl

/-- The tab key goes on to the next candidate. -/
lemma exists_handle_tab {passed : Nat} {typed : LineBuffer} (h : e.Consistent)
    (hne : completion.candidates ≠ []) (hcycle : e.cycle? = some (completion.cycle typed passed))
    (s : Suggester) (history : List String) :
    ∃ e', e.handle s history .tab = .ok (e', .proceed) ∧
      e'.cycle? = some (completion.cycle typed (passed + 1)) := by
  rcases h.tab_cases s with ⟨shown, htab, -⟩ | ⟨-, hnone, -⟩
  · have hshow := htab
    unfold tab at hshow
    simp only [hcycle, Completion.advance?_cycle hne] at hshow
    have hnext := cycle?_showCandidate hshow
    exact ⟨_, handle_tab htab hnext, hnext⟩
  · rw [hcycle] at hnone
    exact absurd hnone (by simp)

/-- The first press of the tab key shows the first candidate, if there is one. -/
lemma exists_handle_tab_first (h : e.Consistent) (hcycle : e.cycle? = none)
    (hcomplete : s.complete e.line.text e.line.cursor = .ok completion)
    (hne : completion.candidates ≠ []) (history : List String) :
    ∃ e', e.handle s history .tab = .ok (e', .proceed) ∧
      e'.cycle? = some (completion.cycle e.line 0) := by
  have hempty : ¬ completion.candidates.isEmpty := by simpa using hne
  have htab : e.tab s =
      showCandidate { e with walk? := none, armed := false } (completion.cycle e.line 0) := by
    unfold tab
    simp only [hcycle, hcomplete, bind, Except.bind, if_neg hempty, Completion.cycle, Nat.zero_mod]
  have hvalid : (completion.cycle e.line 0).Valid := by
    have hvalid := valid_of_complete h.sound hcomplete hne
    simpa only [Completion.cycle, Nat.zero_mod] using hvalid
  obtain ⟨shown, hshow, -⟩ :=
    exists_showCandidate (e := { e with walk? := none, armed := false }) hvalid rfl rfl
  have hnext := cycle?_showCandidate hshow
  exact ⟨_, handle_tab (htab.trans hshow) hnext, hnext⟩

/-- Clearing the screen keeps the line and the candidates that are tried. -/
lemma handle_clearScreen (h : e.handle s history .clearScreen = .ok (e', outcome)) :
    e'.line = e.line ∧ e'.cycle? = e.cycle? := by
  obtain ⟨applied, suggestion, happly, rfl⟩ := exists_apply_of_handle h
  obtain ⟨rfl, -⟩ := Prod.mk.inj (Except.ok.inj happly)
  exact ⟨rfl, rfl⟩

/-- Clearing the screen cannot fail while candidates are tried. -/
lemma exists_handle_clearScreen (hcycle : e.cycle? = some c) (s : Suggester)
    (history : List String) :
    ∃ e', e.handle s history .clearScreen = .ok (e', .clearScreen) ∧ e'.cycle? = some c := by
  have happly : e.apply s history .clearScreen = .ok (e, .clearScreen) := rfl
  have hrefresh : e.refresh s = .ok { e with suggestion := none } := by
    unfold refresh
    simp [hcycle]
  refine ⟨{ e with suggestion := none }, ?_, hcycle⟩
  rw [handle_of_apply happly, hrefresh]
  rfl

/-! ### Taking a candidate -/

/-- While candidates are tried, an enter takes the one that is shown. -/
lemma takenByEnter_of_cycle? (hcycle : e.cycle? = some c) : e.TakenByEnter := by
  intro s history e' outcome h
  have henter : e.apply s history .enter =
      .ok ({ e with cycle? := none, armed := true }, .proceed) := by
    unfold apply enter
    rw [hcycle]
  obtain ⟨applied, suggestion, happly, rfl⟩ := exists_apply_of_handle h
  rw [henter] at happly
  obtain ⟨rfl, rfl⟩ := Prod.mk.inj (Except.ok.inj happly)
  exact ⟨rfl, rfl, rfl, rfl, fun s history => ⟨_, handle_enter rfl s history⟩⟩

/-! ### Runs -/

/-- Clearing the screen any number of times keeps the line. -/
lemma run_clearScreen (hos : ∀ o ∈ os, o.event = .clearScreen)
    (hrun : e.run os = .ok (e', outcomes)) : e'.line = e.line ∧ e'.cycle? = e.cycle? := by
  induction os generalizing e outcomes with
  | nil =>
    obtain ⟨rfl, -⟩ := run_nil_eq_ok.mp hrun
    exact ⟨rfl, rfl⟩
  | cons o os ih =>
    obtain ⟨next, outcome, others, hstep, hothers, -⟩ := run_cons_eq_ok.mp hrun
    obtain ⟨hevent, hevents⟩ := List.forall_mem_cons.mp hos
    rw [hevent] at hstep
    obtain ⟨hline, hcycle⟩ := handle_clearScreen hstep
    obtain ⟨hline', hcycle'⟩ := ih hevents hothers
    exact ⟨hline'.trans hline, hcycle'.trans hcycle⟩

/-- While candidates are tried, every press of the tab key passes one, and nothing can fail. -/
lemma exists_run_onlyTabs {passed : Nat} {typed : LineBuffer} (h : Reachable e)
    (hne : completion.candidates ≠ []) (hcycle : e.cycle? = some (completion.cycle typed passed))
    (hos : OnlyTabs os) :
    ∃ e' outcomes, e.run os = .ok (e', outcomes) ∧
      e'.cycle? = some (completion.cycle typed (passed + tabPresses os)) := by
  induction os generalizing e passed with
  | nil => exact ⟨e, [], rfl, hcycle⟩
  | cons o os ih =>
    obtain ⟨hevent, hevents⟩ := List.forall_mem_cons.mp hos
    have hstep : ∃ next outcome, e.handle o.suggester o.history o.event = .ok (next, outcome) ∧
        next.cycle? = some (completion.cycle typed (passed + tabPresses [o])) := by
      rcases hevent with htab | hclear
      · obtain ⟨next, hnext, hcycle'⟩ :=
          exists_handle_tab h.invariant.1 hne hcycle o.suggester o.history
        exact ⟨next, _, by rw [htab, hnext], by rw [hcycle']; simp [tabPresses, htab]⟩
      · obtain ⟨next, hnext, hcycle'⟩ := exists_handle_clearScreen hcycle o.suggester o.history
        exact ⟨next, _, by rw [hclear, hnext], by rw [hcycle']; simp [tabPresses, hclear]⟩
    obtain ⟨next, outcome, hnext, hcycle'⟩ := hstep
    obtain ⟨e', outcomes, hrun, hlast⟩ := ih (h.step hnext) hcycle' hevents
    refine ⟨e', outcome :: outcomes, ?_, ?_⟩
    · exact run_cons_eq_ok.mpr ⟨next, outcome, outcomes, hnext, hrun, rfl⟩
    · have hpresses : tabPresses (o :: os) = tabPresses [o] + tabPresses os := by
        rw [← List.singleton_append]
        exact List.countP_append
      rw [hlast, hpresses, Nat.add_assoc]

/-! ### The line -/

/-- A line shows a candidate in place of what stood between `replaceFrom` and the cursor of the line
that was typed, and its cursor stands behind the candidate. -/
def ShowsCandidate (e : Editor) (typed : LineBuffer) (replaceFrom : Nat) (candidate : String) :
    Prop :=
  e.line.text =
      .ofList (Text.beforeByte replaceFrom typed.text.toList) ++ candidate ++
        .ofList (Text.fromByte typed.cursor typed.text.toList) ∧
    e.line.cursor = replaceFrom + candidate.utf8ByteSize

/-- The line of a session while candidates are tried is determined by the cycle. -/
lemma Reachable.exists_shown {passed : Nat} {typed : LineBuffer} (h : Reachable e)
    (hcycle : e.cycle? = some (completion.cycle typed passed)) :
    ∃ candidate,
      completion.candidates[passed % completion.candidates.length]? = some candidate ∧
        e.ShowsCandidate typed completion.replaceFrom candidate := by
  have hshows := (h.invariant.1.cycling _ hcycle).2
  have hindex : passed % completion.candidates.length < completion.candidates.length :=
    hshows.index_lt
  exact ⟨completion.candidates[passed % completion.candidates.length],
    List.getElem?_eq_getElem hindex, hshows.text_eq, hshows.cursor_eq⟩

/-- Two lines that show the same candidate in the same line are the same. -/
lemma ShowsCandidate.line_eq {typed : LineBuffer} {start : Nat} {candidate : String}
    (h : e.ShowsCandidate typed start candidate) (h' : e'.ShowsCandidate typed start candidate) :
    e'.line = e.line := by
  obtain ⟨htext, hcursor⟩ := h
  obtain ⟨htext', hcursor'⟩ := h'
  exact (LineBuffer.mk.injEq ..).mpr ⟨htext'.trans htext.symm, hcursor'.trans hcursor.symm⟩

/-- From a session in which no candidates are tried, `k` presses of the tab key show the candidate
that comes `k - 1` places behind the first one, going round. It stands in the line as it was before
the first press. As many presses again as there are candidates show the same line again. An enter
then takes the candidate, and another enter submits the line that is shown. Only clearing the
screen before the first press can fail, since a suggestion is made for the line then. -/
theorem exists_tabs_show_candidate {first : List Outcome} {cleared later : List Occurrence}
    {start : Editor} (h : Reachable e) (hcycle : e.cycle? = none)
    (hcomplete : s.complete e.line.text e.line.cursor = .ok completion)
    (hne : completion.candidates ≠ []) (hcleared : ∀ o ∈ cleared, o.event = .clearScreen)
    (hrun : e.run cleared = .ok (start, first)) (hlater : OnlyTabs later)
    (history : List String) :
    let os := cleared ++ ⟨.tab, s, history⟩ :: later
    let n := completion.candidates.length
    ∃ e' outcomes candidate, e.run os = .ok (e', outcomes) ∧
      completion.candidates[(tabPresses os - 1) % n]? = some candidate ∧
      e'.ShowsCandidate e.line completion.replaceFrom candidate ∧
      (∀ more, OnlyTabs more → tabPresses more = n →
        ∃ e'' outcomes', e'.run more = .ok (e'', outcomes') ∧ e''.line = e'.line) ∧
      e'.TakenByEnter := by
  intro os n
  obtain ⟨hline, hnone⟩ := run_clearScreen hcleared hrun
  have hstart : Reachable start := h.run hrun
  -- The first press starts the cycle in the line as it was.
  obtain ⟨tried, htab, htried⟩ := exists_handle_tab_first hstart.invariant.1
    (hnone.trans hcycle) (by rw [hline, hcomplete]) hne history
  rw [hline] at htried
  obtain ⟨e', outcomes, hlast, hcycle'⟩ :=
    exists_run_onlyTabs (hstart.step htab) hne htried hlater
  rw [Nat.zero_add] at hcycle'
  have hreached : Reachable e' := (hstart.step htab).run hlast
  have hpresses : tabPresses os - 1 = tabPresses later := by
    have hnotab : tabPresses cleared = 0 := by
      refine List.countP_eq_zero.mpr fun o ho => ?_
      rw [hcleared o ho]
      decide
    have hsplit : tabPresses os = tabPresses cleared + (tabPresses later + 1) := by
      unfold tabPresses
      rw [List.countP_append, List.countP_cons_of_pos rfl]
    omega
  obtain ⟨candidate, hcandidate, hshown⟩ := hreached.exists_shown hcycle'
  refine ⟨e', first ++ .proceed :: outcomes, candidate, ?_, ?_, hshown, ?_,
    takenByEnter_of_cycle? hcycle'⟩
  · refine (run_append_eq_ok hrun).mpr ⟨.proceed :: outcomes, ?_, rfl⟩
    exact run_cons_eq_ok.mpr ⟨tried, .proceed, outcomes, htab, hlast, rfl⟩
  · rw [hpresses]
    exact hcandidate
  · intro more hmore hround
    obtain ⟨e'', outcomes', hagain, hcycle''⟩ := exists_run_onlyTabs hreached hne hcycle' hmore
    obtain ⟨candidate', hcandidate', hshown'⟩ :=
      (hreached.run hagain).exists_shown hcycle''
    rw [hround, Nat.add_mod_right, hcandidate] at hcandidate'
    obtain rfl := Option.some.inj hcandidate'
    exact ⟨e'', outcomes', hagain, hshown.line_eq hshown'⟩

/-! ### A run -/

/-- The candidates for the letter of the entry. -/
def midEntryCompletion : Completion where
  candidates := ["été", "éclair"]
  replaceFrom := 4

/-- Three presses of the tab key, with the screen cleared before and between them. -/
def clearedPresses : List Occurrence × List Occurrence :=
  ([⟨.clearScreen, completingFiles [], []⟩],
    [.tab, .clearScreen, .tab].map fun event => ⟨event, completingFiles [], []⟩)

/-- In particular the third press shows the first of two files again, between letters of two
bytes. -/
theorem exists_tabs_show_candidate_midEntry :
    Reachable midEntry ∧ midEntry.cycle? = none ∧
      (completingFiles ["été", "éclair"]).complete midEntry.line.text midEntry.line.cursor =
        .ok midEntryCompletion ∧
      midEntryCompletion.candidates ≠ [] ∧
      (∀ o ∈ clearedPresses.1, o.event = .clearScreen) ∧
      midEntry.run clearedPresses.1 = .ok (midEntry, [.clearScreen]) ∧
      OnlyTabs clearedPresses.2 ∧
      ∃ e', (∃ outcomes, midEntry.run (clearedPresses.1 ++
            ⟨.tab, completingFiles ["été", "éclair"], []⟩ :: clearedPresses.2) =
          .ok (e', outcomes)) ∧
        e'.line = { text := "cat étéé", cursor := 9 } ∧ e'.TakenByEnter := by
  have hcomplete : (completingFiles ["été", "éclair"]).complete midEntry.line.text
      midEntry.line.cursor = .ok midEntryCompletion := by decide +kernel
  have hcleared : ∀ o ∈ clearedPresses.1, o.event = .clearScreen := by simp [clearedPresses]
  have hrun : midEntry.run clearedPresses.1 = .ok (midEntry, [.clearScreen]) := rfl
  have hlater : OnlyTabs clearedPresses.2 := by simp [OnlyTabs, clearedPresses]
  obtain ⟨e', outcomes, candidate, hlast, hcandidate, hshown, -, htaken⟩ :=
    exists_tabs_show_candidate reachable_midEntry rfl hcomplete (by decide) hcleared hrun hlater []
  refine ⟨reachable_midEntry, rfl, hcomplete, by decide, hcleared, hrun, hlater, e',
    ⟨outcomes, hlast⟩, ?_, htaken⟩
  obtain rfl : "été" = candidate := Option.some.inj hcandidate
  have htyped : tryingFile.ShowsCandidate midEntry.line 4 "été" :=
    ⟨by decide +kernel, by decide +kernel⟩
  exact htyped.line_eq hshown

end Editor

end TableShell
