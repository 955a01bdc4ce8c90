import Mathlib.Data.List.Destutter
import TableShell.Proofs.Editor.Ring

/-!
# The ring as a log

The ring is a log of the lines that a session has submitted. It leaves out blank lines, it counts a
line once that is submitted several times in a row, and it holds no more lines than its size.

The editor compares a line with the newest one in the ring only, which may be all that is left of
the log. That is enough: unless the ring has no room at all, its newest line is the last one that
went into the log. So the ring of a session is cut off from the whole log, and every event that
submits nothing leaves both as they are.
-/

namespace TableShell

/-- The line that an outcome submits, unless it is blank. -/
def Outcome.submitted? : Outcome → Option String
  | .submit line => if Text.isBlankText line then none else some line
  | _ => none

namespace Editor

/-- The lines that are submitted over a run, from the first to the last, without blank ones. -/
def submitted (outcomes : List Outcome) : List String :=
  outcomes.filterMap Outcome.submitted?

/-- A ring of the given size holds the newest of some lines, where each that is the same as the one
right before it is dropped. -/
structure Logs (e : Editor) (size : Nat) (lines : List String) : Prop where
  ringSize_eq : e.ringSize = size
  ring_eq : e.ring = (lines.destutter (· ≠ ·)).reverse.take size

variable {e e' : Editor} {s : Suggester} {history lines : List String} {event : Event}
  {outcome : Outcome} {os : List Occurrence} {outcomes : List Outcome} {line : String} {size : Nat}

/-! ### Lines in a row -/

/-- A last line is dropped exactly if it is the same as the last one that is kept. -/
lemma destutter_concat (lines : List String) (line : String) :
    (lines ++ [line]).destutter (· ≠ ·) =
      if (lines.destutter (· ≠ ·)).getLast? = some line then lines.destutter (· ≠ ·)
      else lines.destutter (· ≠ ·) ++ [line] := by
  cases lines with
  | nil => rfl
  | cons first lines =>
    rw [List.cons_append, List.destutter_cons', List.destutter_cons']
    -- The line that the next one is compared with is the last one kept so far.
    induction lines generalizing first with
    | nil =>
      rw [List.nil_append, List.destutter'_singleton, List.destutter'_nil]
      by_cases hsame : first = line
      · simp [hsame]
      · simp [hsame]
    | cons next lines ih =>
      rw [List.cons_append]
      by_cases hsame : first = next
      · subst hsame
        rw [List.destutter'_cons_neg _ (by simp), List.destutter'_cons_neg _ (by simp), ih]
      · rw [List.destutter'_cons_pos _ hsame, List.destutter'_cons_pos _ hsame, ih,
          List.getLast?_cons_of_ne_nil (List.destutter'_ne_nil lines (· ≠ ·))]
        split
        · rfl
        · rfl

/-! ### Single events -/

/-- A blank line is not remembered. -/
lemma remember_of_isBlankText (e : Editor) (hblank : Text.isBlankText line = true) :
    e.remember line = e := by
  unfold remember
  rw [hblank, Bool.not_true, Bool.and_false, Bool.false_and, if_neg Bool.false_ne_true]

/-- A line that is not blank goes into the log. -/
lemma Logs.remember (h : e.Logs size lines) (hblank : Text.isBlankText line = false) :
    (e.remember line).Logs size (lines ++ [line]) := by
  obtain ⟨rfl, hring⟩ := h
  unfold Editor.remember
  cases hsize : e.ringSize with
  | zero => exact ⟨by simp [hsize], by simp [hring, hsize]⟩
  | succ n =>
    rw [hsize] at hring
    have hnewest : e.ring.head? = (lines.destutter (· ≠ ·)).getLast? := by
      rw [hring, List.head?_take, if_neg (Nat.succ_ne_zero n), List.head?_reverse]
    rw [hblank, hnewest]
    by_cases hsame : (lines.destutter (· ≠ ·)).getLast? = some line
    · have hlines : (lines ++ [line]).destutter (· ≠ ·) = lines.destutter (· ≠ ·) := by
        rw [destutter_concat, if_pos hsame]
      rw [hsame]
      exact ⟨by simp [hsize], by simp [hring, hlines]⟩
    · have hlines : (line :: e.ring).take (n + 1) =
          ((lines ++ [line]).destutter (· ≠ ·)).reverse.take (n + 1) := by
        rw [destutter_concat, if_neg hsame, hring, List.reverse_concat, List.take_succ_cons,
          List.take_succ_cons, List.take_take, Nat.min_eq_left (Nat.le_succ n)]
      exact ⟨by simp [hsame], by simp [hsame, hlines]⟩

/-- What an event submits goes into the log, and nothing else does. -/
lemma Logs.handle (h : e.Logs size lines) (hstep : e.handle s history event = .ok (e', outcome)) :
    e'.Logs size (lines ++ submitted [outcome]) := by
  by_cases hsubmits : ∃ line, outcome = .submit line
  · obtain ⟨line, rfl⟩ := hsubmits
    obtain ⟨rfl, hcycle, rfl⟩ := outcomeOf_eq_submit.mp (outcome_of_handle hstep).symm
    rw [handle_enter hcycle] at hstep
    obtain ⟨rfl, -⟩ := Prod.mk.inj (Except.ok.inj hstep)
    have hreset : e.resetLine.Logs size lines := ⟨h.ringSize_eq, h.ring_eq⟩
    cases hblank : Text.isBlankText e.line.text with
    | true => simpa [submitted, Outcome.submitted?, hblank, remember_of_isBlankText] using hreset
    | false => simpa [submitted, Outcome.submitted?, hblank] using hreset.remember hblank
  · have hkept : ∀ line, outcome ≠ .submit line := not_exists.mp hsubmits
    have hnothing : submitted [outcome] = [] := by
      cases outcome with
      | submit line => exact absurd rfl (hkept line)
      | _ => rfl
    obtain ⟨hring, hsize, -⟩ := sameRing_of_not_submit hstep hkept
    rw [hnothing, List.append_nil]
    exact ⟨hsize.trans h.ringSize_eq, hring.trans h.ring_eq⟩

/-! ### Sessions -/

/-- What is submitted over a run goes into the log. -/
lemma Logs.run (h : e.Logs size lines) (hrun : e.run os = .ok (e', outcomes)) :
    e'.Logs size (lines ++ submitted outcomes) := by
  induction os generalizing e lines outcomes with
  | nil =>
    obtain ⟨rfl, rfl⟩ := run_nil_eq_ok.mp hrun
    rw [submitted, List.filterMap_nil, List.append_nil]
    exact h
  | cons o os ih =>
    obtain ⟨next, outcome, others, hstep, hothers, rfl⟩ := run_cons_eq_ok.mp hrun
    have hlogged := ih (h.handle hstep) hothers
    have hsplit : submitted (outcome :: others) = submitted [outcome] ++ submitted others :=
      List.filterMap_append (l := [outcome])
    rw [hsplit, ← List.append_assoc]
    exact hlogged

/-- After any events of a session the ring holds, from the newest to the oldest, the last
`ringSize` of the lines that were submitted, where blank lines are left out and a line is dropped
that is the same as the one before it. Whatever event submits no line keeps the ring. -/
theorem ring_of_run {ringSize : Nat} {suggesting : Bool}
    (hrun : run { ringSize, suggesting } os = .ok (e, outcomes)) :
    e.ring = ((submitted outcomes).destutter (· ≠ ·)).reverse.take ringSize ∧
      ∀ s history event e' outcome, e.handle s history event = .ok (e', outcome) →
        (∀ line, outcome ≠ .submit line) → e'.ring = e.ring := by
  constructor
  · have hstart : Logs { ringSize, suggesting } ringSize [] := ⟨rfl, by simp⟩
    have hlogged := hstart.run hrun
    exact hlogged.ring_eq
  · intro s history event e' outcome hstep hkept
    exact (sameRing_of_not_submit hstep hkept).ring_eq

/-! ### A session -/

/-- Lines are typed and submitted, one of them blank, and another one is abandoned. -/
def submittingLines : List Occurrence :=
  [.printable 'a', .enter, .printable 'a', .enter, .printable ' ', .enter, .printable 'a', .enter,
    .printable 'b', .enter, .printable 'c', .interrupt, .printable 'a', .enter].map
      fun event => ⟨event, completingFiles [], []⟩

/-- In particular a ring of two lines holds a line once that is submitted three times in a row, and
once more when another one has come between. -/
theorem ring_of_run_submittingLines :
    ∃ outcomes, run { ringSize := 2, suggesting := true } submittingLines =
        .ok ({ ringSize := 2, ring := ["a", "b"] }, outcomes) ∧
      submitted outcomes = ["a", "a", "a", "b", "a"] ∧
      ["a", "b"] = ((submitted outcomes).destutter (· ≠ ·)).reverse.take 2 := by
  have hrun : run { ringSize := 2, suggesting := true } submittingLines =
      .ok ({ ringSize := 2, ring := ["a", "b"] },
        [.proceed, .submit "a", .proceed, .submit "a", .proceed, .submit " ", .proceed,
          .submit "a", .proceed, .submit "b", .proceed, .cancel, .proceed, .submit "a"]) := by
    decide +kernel
  exact ⟨_, hrun, by decide, (ring_of_run hrun).1⟩

end Editor

end TableShell
