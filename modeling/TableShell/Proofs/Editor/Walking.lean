import TableShell.Proofs.Completion.Names
import TableShell.Proofs.Editor.Ring

/-!
# Walking through earlier lines

The arrow keys move a position. At 0 stands the line that was left, and at every other position one
of the earlier lines, the newest at 1. An arrow up goes one position further and stays at the last
one; an arrow down goes one position back and stays at 0.

The editor keeps no position. It keeps a walk with an index, which exists away from 0 only, and the
earlier lines are collected anew by every walk. The ring and the history stay the same on the way,
so that every walk finds the same lines.
-/

namespace TableShell.Editor

/-! ### Positions -/

/-- The earlier lines: those of the ring and then those of the history, which is given from its
oldest line on. They are ordered from the newest to the oldest, and each is kept where it occurs
first. -/
def earlierLines (e : Editor) (history : List String) : List String :=
  (e.ring ++ history.reverse).eraseDups

/-- Nothing happens but that the arrow keys are pressed, and the history stays the same. -/
def OnlyArrows (history : List String) (os : List Occurrence) : Prop :=
  ∀ o ∈ os, (o.event = .up ∨ o.event = .down) ∧ o.history = history

/-- The position that an arrow key leads to among `n` earlier lines. -/
def nextPosition (n p : Nat) : Event → Nat
  | .up => min (p + 1) n
  | .down => p - 1
  | _ => p

/-- The position that arrow keys lead to from the line that was left. -/
def position (n : Nat) (os : List Occurrence) : Nat :=
  os.foldl (fun p o => nextPosition n p o.event) 0

/-- An editor shows what stands at a position, where `left` is the line that was left. -/
def StandsAt (e : Editor) (left : LineBuffer) (lines : List String) : Nat → Prop
  | 0 => e.line = left ∧ e.walk? = none
  | p + 1 =>
    (∃ entry, lines[p]? = some entry ∧ e.line = .atEnd entry) ∧
      e.walk? = some { snapshot := left, entries := lines, index := p } ∧ e.cycle? = none

variable {e e' : Editor} {left : LineBuffer} {lines history : List String} {p : Nat}
  {s : Suggester} {event : Event} {outcome : Outcome} {os : List Occurrence}
  {outcomes : List Outcome}

/-- A walk goes through the earlier lines. -/
lemma walkEntries_eq (e : Editor) (history : List String) :
    e.walkEntries history = e.earlierLines history :=
  Suggester.unique_eq_eraseDups _

/-- A position is that of the line that was left or of one of the earlier lines. -/
lemma StandsAt.le (h : e.StandsAt left lines p) : p ≤ lines.length := by
  cases p with
  | zero => exact Nat.zero_le _
  | succ p =>
    obtain ⟨⟨entry, hentry, -⟩, -, -⟩ := h
    exact (List.getElem?_eq_some_iff.mp hentry).1

/-- What is suggested does not matter to the position. -/
lemma StandsAt.with_suggestion (h : e.StandsAt left lines p) (suggestion : Option Suggestion) :
    StandsAt { e with suggestion } left lines p := by
  cases p <;> exact h

/-! ### Single arrows -/

/-- An entry that a walk has is shown. -/
lemma exists_showEntry_standsAt (hp : p < lines.length) (hcycle : e.cycle? = none) :
    ∃ e', e.showEntry { snapshot := left, entries := lines, index := p } = .ok e' ∧
      e'.StandsAt left lines (p + 1) := by
  have hentry : lines[p]? = some lines[p] := List.getElem?_eq_getElem hp
  refine ⟨{ e with
      line := .atEnd lines[p]
      walk? := some { snapshot := left, entries := lines, index := p } }, ?_,
    ⟨lines[p], hentry, rfl⟩, rfl, hcycle⟩
  rw [showEntry, hentry]
  rfl

/-- An arrow up leads to the next position, if there is one. -/
lemma StandsAt.exists_older (h : e.StandsAt left lines p) (hcycle : e.cycle? = none)
    (hlines : e.walkEntries history = lines) :
    ∃ e', e.older history = .ok e' ∧ e'.StandsAt left lines (min (p + 1) lines.length) := by
  rw [older]
  cases p with
  | zero =>
    obtain ⟨rfl, hwalk⟩ := h
    simp only [hwalk, hlines]
    by_cases hempty : lines.isEmpty
    · obtain rfl : lines = [] := by simpa using hempty
      exact ⟨e, rfl, rfl, hwalk⟩
    · have hpos : 0 < lines.length := List.length_pos_of_ne_nil (by simpa using hempty)
      rw [if_neg hempty, Nat.min_eq_left hpos]
      exact exists_showEntry_standsAt hpos hcycle
  | succ p =>
    obtain ⟨hentry, hwalk, -⟩ := h
    simp only [hwalk]
    by_cases hlast : lines.length ≤ p + 1
    · have hle := StandsAt.le (p := p + 1) ⟨hentry, hwalk, hcycle⟩
      have hstay : min (p + 1 + 1) lines.length = p + 1 := by omega
      rw [hstay]
      exact ⟨e, if_pos hlast, hentry, hwalk, hcycle⟩
    · have hnext : min (p + 1 + 1) lines.length = p + 1 + 1 := by omega
      rw [if_neg hlast, hnext]
      exact exists_showEntry_standsAt (Nat.lt_of_not_le hlast) hcycle

/-- An arrow down leads to the position before. -/
lemma StandsAt.exists_newer (h : e.StandsAt left lines p) (hcycle : e.cycle? = none) :
    ∃ e', e.newer = .ok e' ∧ e'.StandsAt left lines (p - 1) := by
  have hle := h.le
  rw [newer]
  cases p with
  | zero =>
    obtain ⟨hline, hwalk⟩ := h
    simp only [hwalk]
    exact ⟨e, rfl, hline, hwalk⟩
  | succ p =>
    obtain ⟨-, hwalk, -⟩ := h
    simp only [hwalk]
    cases p with
    | zero => exact ⟨_, rfl, rfl, rfl⟩
    | succ p =>
      rw [if_neg (by simp)]
      exact exists_showEntry_standsAt (p := p) (by omega) hcycle

/-- An arrow leads to the next position. -/
lemma StandsAt.handle (h : e.StandsAt left lines p) (hlines : e.earlierLines history = lines)
    (hevent : event = .up ∨ event = .down)
    (hstep : e.handle s history event = .ok (e', outcome)) :
    e'.StandsAt left lines (nextPosition lines.length p event) := by
  -- Candidates are dropped first, which keeps the line that is shown.
  have hsettled : e.settle.StandsAt left lines p := by
    cases p with
    | zero => exact h
    | succ p => exact ⟨h.1, h.2.1, rfl⟩
  have hlines : e.settle.walkEntries history = lines := by
    rw [walkEntries_eq]
    exact hlines
  obtain ⟨applied, suggestion, happly, rfl⟩ := exists_apply_of_handle hstep
  refine StandsAt.with_suggestion ?_ suggestion
  rcases hevent with rfl | rfl
  · obtain ⟨next, hnext, hstands⟩ := hsettled.exists_older rfl hlines
    rw [apply, hnext] at happly
    obtain ⟨rfl, -⟩ := Prod.mk.inj (Except.ok.inj happly)
    exact hstands
  · obtain ⟨next, hnext, hstands⟩ := hsettled.exists_newer rfl
    rw [apply, hnext] at happly
    obtain ⟨rfl, -⟩ := Prod.mk.inj (Except.ok.inj happly)
    exact hstands

/-- An escape away from position 0 returns to the line that was left. -/
lemma StandsAt.handle_escape (h : e.StandsAt left lines (p + 1)) (s : Suggester)
    (history : List String) :
    ∃ e', e.handle s history .escape = .ok (e', .proceed) ∧ e'.line = left ∧ e'.walk? = none := by
  obtain ⟨-, hwalk, hcycle⟩ := h
  have happly : e.apply s history .escape =
      .ok ({ e with line := left, walk? := none, suggestion := none }, .proceed) := by
    rw [apply, escape, hcycle, hwalk]
  refine ⟨{ e with line := left, walk? := none, suggestion := none }, ?_, rfl, rfl⟩
  rw [handle_of_apply happly]
  rfl

/-! ### Runs -/

/-- Arrows lead from position to position. -/
lemma StandsAt.run (h : e.StandsAt left lines p) (hlines : e.earlierLines history = lines)
    (hos : OnlyArrows history os) (hrun : e.run os = .ok (e', outcomes)) :
    e'.StandsAt left lines (os.foldl (fun p o => nextPosition lines.length p o.event) p) := by
  induction os generalizing e p outcomes with
  | nil =>
    obtain ⟨rfl, -⟩ := run_nil_eq_ok.mp hrun
    exact h
  | cons o os ih =>
    obtain ⟨⟨hevent, hhistory⟩, hos⟩ := List.forall_mem_cons.mp hos
    obtain ⟨next, outcome, others, hstep, hothers, -⟩ := run_cons_eq_ok.mp hrun
    rw [hhistory] at hstep
    have hnext := h.handle hlines hevent hstep
    have hsame : e.SameRing next := by
      refine sameRing_of_handle ?_ hstep
      rcases hevent with hevent | hevent <;> simp [hevent]
    refine ih hnext ?_ hos hothers
    rw [earlierLines, hsame.ring_eq]
    exact hlines

/-- Where no earlier lines are walked through, arrows move a position that starts at 0 and stays
among the earlier lines. After every part of a run the editor shows what stands at the position,
and away from 0 an escape returns to the line that was left. -/
theorem exists_standsAt_of_run {before after : List Occurrence} (hwalk : e.walk? = none)
    (hos : OnlyArrows history (before ++ after))
    (hrun : e.run (before ++ after) = .ok (e', outcomes)) :
    let lines := e.earlierLines history
    let p := position lines.length before
    ∃ mid first, e.run before = .ok (mid, first) ∧ p ≤ lines.length ∧
      mid.StandsAt e.line lines p ∧
      (p ≠ 0 → ∀ s history, ∃ e'', mid.handle s history .escape = .ok (e'', .proceed) ∧
        e''.line = e.line ∧ e''.walk? = none) := by
  intro lines p
  obtain ⟨mid, first, hfirst⟩ := exists_run_of_append hrun
  have hstart : e.StandsAt e.line lines 0 := ⟨rfl, hwalk⟩
  have hbefore : OnlyArrows history before := fun o ho => hos o (List.mem_append_left _ ho)
  have hstands : mid.StandsAt e.line lines p := hstart.run rfl hbefore hfirst
  refine ⟨mid, first, hfirst, hstands.le, hstands, fun hp s history => ?_⟩
  obtain ⟨q, hq⟩ := Nat.exists_eq_succ_of_ne_zero hp
  rw [hq] at hstands
  exact hstands.handle_escape s history

/-! ### A run -/

/-- A line has been submitted and another one begun, with the cursor in front of its last letter. -/
def begunLine : Editor where
  line := { text := "cé", cursor := 1 }
  ring := ["ls"]

/-- Two lines of a history from its oldest one on. The newer one stands in the ring as well. -/
def listedHistory : List String := ["pwd", "ls"]

/-- Arrow keys with nothing to look up but that history. -/
def arrows (events : List Event) : List Occurrence :=
  events.map fun event => ⟨event, completingFiles [], listedHistory⟩

/-- The editor of the example is met in a session: a line is submitted, and another one begun. -/
lemma reachable_begunLine : Reachable begunLine := by
  have hrun : run { ringSize := 50, suggesting := true }
      (arrows [.printable 'l', .printable 's', .enter, .printable 'c', .printable 'é', .left]) =
        .ok (begunLine, [.proceed, .proceed, .submit "ls", .proceed, .proceed, .proceed]) := by
    decide +kernel
  exact (Reachable.start 50 true).run hrun

/-- In particular three arrows up stop at the older one of two lines, from where an escape returns
to the line that was left. -/
theorem exists_standsAt_begunLine :
    Reachable begunLine ∧ begunLine.walk? = none ∧
      OnlyArrows listedHistory (arrows [.up, .up, .up] ++ arrows [.down, .down]) ∧
      begunLine.run (arrows [.up, .up, .up] ++ arrows [.down, .down]) =
        .ok (begunLine, [.proceed, .proceed, .proceed, .proceed, .proceed]) ∧
      ∃ mid first, begunLine.run (arrows [.up, .up, .up]) = .ok (mid, first) ∧
        mid.line = .atEnd "pwd" ∧ mid.walk?.isSome ∧
        ∀ s history, ∃ e'', mid.handle s history .escape = .ok (e'', .proceed) ∧
          e''.line = begunLine.line ∧ e''.walk? = none := by
  have hos : OnlyArrows listedHistory (arrows [.up, .up, .up] ++ arrows [.down, .down]) := by
    simp [OnlyArrows, arrows]
  have hrun : begunLine.run (arrows [.up, .up, .up] ++ arrows [.down, .down]) =
      .ok (begunLine, [.proceed, .proceed, .proceed, .proceed, .proceed]) := by decide +kernel
  have hlines : begunLine.earlierLines listedHistory = ["ls", "pwd"] := by decide +kernel
  obtain ⟨mid, first, hfirst, -, hstands, hescape⟩ := exists_standsAt_of_run rfl hos hrun
  rw [hlines] at hstands hescape
  obtain ⟨⟨entry, hentry, hline⟩, hwalk, -⟩ := hstands
  obtain rfl : "pwd" = entry := Option.some.inj hentry
  exact ⟨reachable_begunLine, rfl, hos, hrun, mid, first, hfirst, hline, by simp [hwalk],
    hescape (by decide)⟩

end TableShell.Editor
