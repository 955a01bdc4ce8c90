import TableShell.Proofs.Editor.Reachability

/-!
# Runs of events

What events do one after the other, together with their outcomes. Every event brings along what
the editor may look up at it, so the sources of candidates and the history can change on the way.
-/

namespace TableShell.Editor

/-- An event, and what the editor may look up at it. -/
structure Occurrence where
  event : Event
  suggester : Suggester
  history : List String

/-- What events do one after the other. The first error ends the run. -/
def run (e : Editor) : List Occurrence → Except ContextError (Editor × List Outcome)
  | [] => .ok (e, [])
  | o :: os => do
    let (e, outcome) ← e.handle o.suggester o.history o.event
    let (e, outcomes) ← e.run os
    return (e, outcome :: outcomes)

variable {e e' : Editor} {o : Occurrence} {os : List Occurrence} {outcomes : List Outcome}

/-- A run without events ends where it has begun. -/
lemma run_nil_eq_ok : e.run [] = .ok (e', outcomes) ↔ e = e' ∧ outcomes = [] := by
  rw [run, Except.ok.injEq, Prod.mk.injEq]
  exact and_congr_right fun _ => eq_comm

/-- A run that is not empty is its first event and the run of the others. -/
lemma run_cons_eq_ok :
    e.run (o :: os) = .ok (e', outcomes) ↔
      ∃ next outcome others, e.handle o.suggester o.history o.event = .ok (next, outcome) ∧
        next.run os = .ok (e', others) ∧ outcomes = outcome :: others := by
  constructor
  · intro h
    obtain ⟨⟨next, outcome⟩, hstep, h⟩ := bind_eq_ok.mp h
    obtain ⟨⟨last, others⟩, hothers, h⟩ := bind_eq_ok.mp h
    obtain ⟨rfl, rfl⟩ := Prod.mk.inj (Except.ok.inj h)
    exact ⟨next, outcome, others, hstep, hothers, rfl⟩
  · rintro ⟨next, outcome, others, hstep, hothers, rfl⟩
    rw [run, hstep]
    simp only [bind, Except.bind, hothers]
    rfl

/-- A run goes on where a first part of it has ended. -/
lemma run_append_eq_ok {before after : List Occurrence} {first : List Outcome} {mid : Editor}
    (h : e.run before = .ok (mid, first)) :
    e.run (before ++ after) = .ok (e', outcomes) ↔
      ∃ others, mid.run after = .ok (e', others) ∧ outcomes = first ++ others := by
  induction before generalizing e first outcomes with
  | nil =>
    obtain ⟨rfl, rfl⟩ := run_nil_eq_ok.mp h
    simp
  | cons o before ih =>
    obtain ⟨next, outcome, rest, hstep, hrest, rfl⟩ := run_cons_eq_ok.mp h
    rw [List.cons_append, run_cons_eq_ok]
    simp only [hstep, Except.ok.injEq, Prod.mk.injEq]
    constructor
    · rintro ⟨_, _, others, ⟨rfl, rfl⟩, hothers, rfl⟩
      obtain ⟨last, hlast, rfl⟩ := (ih hrest).mp hothers
      exact ⟨last, hlast, rfl⟩
    · rintro ⟨last, hlast, rfl⟩
      exact ⟨next, outcome, rest ++ last, ⟨rfl, rfl⟩, (ih hrest).mpr ⟨last, hlast, rfl⟩, rfl⟩

/-- A first part of a run is a run. -/
lemma exists_run_of_append {before after : List Occurrence}
    (h : e.run (before ++ after) = .ok (e', outcomes)) :
    ∃ mid first, e.run before = .ok (mid, first) := by
  induction before generalizing e outcomes with
  | nil => exact ⟨e, [], rfl⟩
  | cons o before ih =>
    obtain ⟨next, outcome, others, hstep, hothers, -⟩ := run_cons_eq_ok.mp h
    obtain ⟨mid, first, hfirst⟩ := ih hothers
    exact ⟨mid, outcome :: first, run_cons_eq_ok.mpr ⟨next, outcome, first, hstep, hfirst, rfl⟩⟩

/-- A session stays one over a run. -/
lemma Reachable.run (h : Reachable e) (hrun : e.run os = .ok (e', outcomes)) : Reachable e' := by
  induction os generalizing e outcomes with
  | nil =>
    obtain ⟨rfl, -⟩ := run_nil_eq_ok.mp hrun
    exact h
  | cons o os ih =>
    obtain ⟨next, outcome, others, hstep, hothers, -⟩ := run_cons_eq_ok.mp hrun
    exact ih (h.step hstep) hothers

end TableShell.Editor
