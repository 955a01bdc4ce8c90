import TableShell.Proofs.Editor.Runs

/-!
# What a session keeps

The lines that have been submitted and the settings of the editor do not take part in editing. Only
an enter puts a line into the ring; every other event leaves the ring alone, and no event changes
the settings.
-/

namespace TableShell.Editor

/-- Two editors have the same ring and the same settings. -/
structure SameRing (e e' : Editor) : Prop where
  ring_eq : e'.ring = e.ring
  ringSize_eq : e'.ringSize = e.ringSize
  suggesting_eq : e'.suggesting = e.suggesting

variable {e e' e'' : Editor} {s : Suggester} {history : List String} {event : Event}
  {outcome : Outcome} {os : List Occurrence} {outcomes : List Outcome}

/-- An editor has its own ring. -/
lemma SameRing.refl (e : Editor) : e.SameRing e := ⟨rfl, rfl, rfl⟩

/-- The same ring is passed on from step to step. -/
lemma SameRing.trans (h : e.SameRing e') (h' : e'.SameRing e'') : e.SameRing e'' :=
  ⟨h'.ring_eq.trans h.ring_eq, h'.ringSize_eq.trans h.ringSize_eq,
    h'.suggesting_eq.trans h.suggesting_eq⟩

/-! ### Single operations -/

/-- Returning to what was typed leaves the ring alone. -/
lemma sameRing_restore (e : Editor) : e.SameRing e.restore := by
  unfold restore
  cases e.cycle? <;> exact ⟨rfl, rfl, rfl⟩

/-- Editing the line leaves the ring alone. -/
lemma sameRing_of_edit {change : LineBuffer → Option LineBuffer} (h : e.edit change = .ok e') :
    e.SameRing e' := by
  obtain ⟨line, -, h⟩ := bind_eq_ok.mp h
  obtain rfl := Except.ok.inj h
  exact ⟨rfl, rfl, rfl⟩

/-- Dropping the candidates or editing the line leaves the ring alone. -/
lemma sameRing_of_restoreOrEdit {change : LineBuffer → Option LineBuffer}
    (h : e.restoreOrEdit change = .ok e') : e.SameRing e' := by
  unfold restoreOrEdit at h
  cases hcycle : e.cycle? with
  | some cycle =>
    rw [hcycle] at h
    obtain rfl := Except.ok.inj h
    exact sameRing_restore e
  | none =>
    rw [hcycle] at h
    exact sameRing_of_edit h

/-- Moving the cursor leaves the ring alone. -/
lemma sameRing_of_move {motion : LineBuffer → Option LineBuffer} (h : e.move motion = .ok e') :
    e.SameRing e' := by
  obtain ⟨line, -, h⟩ := bind_eq_ok.mp h
  obtain rfl := Except.ok.inj h
  exact ⟨rfl, rfl, rfl⟩

/-- Showing a candidate leaves the ring alone. -/
lemma sameRing_of_showCandidate {c : Cycle} (h : e.showCandidate c = .ok e') :
    e.SameRing e' := by
  unfold showCandidate at h
  cases hcandidate : c.candidates[c.index]? with
  | none =>
    rw [hcandidate] at h
    obtain rfl := Except.ok.inj h
    exact ⟨rfl, rfl, rfl⟩
  | some candidate =>
    rw [hcandidate] at h
    obtain ⟨line, -, h⟩ := bind_eq_ok.mp h
    obtain rfl := Except.ok.inj h
    exact ⟨rfl, rfl, rfl⟩

/-- A tab leaves the ring alone. -/
lemma sameRing_of_tab (h : e.tab s = .ok e') : e.SameRing e' := by
  unfold tab at h
  cases hcycle : e.cycle? with
  | some cycle =>
    rw [hcycle] at h
    obtain ⟨next, -, h⟩ := bind_eq_ok.mp h
    exact sameRing_of_showCandidate h
  | none =>
    rw [hcycle] at h
    obtain ⟨completion, -, h⟩ := bind_eq_ok.mp h
    split at h
    · obtain rfl := Except.ok.inj h
      exact .refl e
    · -- The walk is left and the editor disarmed before the candidate is shown.
      have hshown := sameRing_of_showCandidate h
      exact ⟨hshown.ring_eq, hshown.ringSize_eq, hshown.suggesting_eq⟩

/-- Showing an earlier line leaves the ring alone. -/
lemma sameRing_of_showEntry {w : Walk} (h : e.showEntry w = .ok e') : e.SameRing e' := by
  obtain ⟨entry, -, h⟩ := bind_eq_ok.mp h
  obtain rfl := Except.ok.inj h
  exact ⟨rfl, rfl, rfl⟩

/-- Going to an older line leaves the ring alone. -/
lemma sameRing_of_older (h : e.older history = .ok e') : e.SameRing e' := by
  unfold older at h
  cases hwalk : e.walk? with
  | some w =>
    simp only [hwalk] at h
    split at h
    · obtain rfl := Except.ok.inj h
      exact .refl e
    · exact sameRing_of_showEntry h
  | none =>
    simp only [hwalk] at h
    split at h
    · obtain rfl := Except.ok.inj h
      exact .refl e
    · exact sameRing_of_showEntry h

/-- Going to a newer line leaves the ring alone. -/
lemma sameRing_of_newer (h : e.newer = .ok e') : e.SameRing e' := by
  unfold newer at h
  cases hwalk : e.walk? with
  | some w =>
    simp only [hwalk] at h
    split at h
    · obtain rfl := Except.ok.inj h
      exact ⟨rfl, rfl, rfl⟩
    · exact sameRing_of_showEntry h
  | none =>
    simp only [hwalk] at h
    obtain rfl := Except.ok.inj h
    exact .refl e

/-- Taking up a suggestion leaves the ring alone. -/
lemma sameRing_acceptSuggestion (e : Editor) : e.SameRing e.acceptSuggestion := by
  unfold acceptSuggestion
  split <;> exact ⟨rfl, rfl, rfl⟩

/-- An escape leaves the ring alone. -/
lemma sameRing_escape (e : Editor) : e.SameRing e.escape := by
  have hrestore := sameRing_restore e
  unfold escape
  cases e.cycle? with
  | some cycle => exact ⟨hrestore.ring_eq, hrestore.ringSize_eq, hrestore.suggesting_eq⟩
  | none => cases e.walk? <;> exact ⟨rfl, rfl, rfl⟩

/-! ### Events -/

/-- An operation that keeps the ring does so as an event. -/
lemma sameRing_of_map_proceed {x : Except ContextError Editor}
    (hx : ∀ applied, x = .ok applied → e.SameRing applied)
    (h : x.map (·, Outcome.proceed) = .ok (e', outcome)) : e.SameRing e' := by
  obtain ⟨applied, happlied, hresult⟩ := map_eq_ok.mp h
  obtain ⟨rfl, -⟩ := Prod.mk.inj hresult
  exact hx _ happlied

/-- Every event but an enter leaves the ring alone. -/
lemma sameRing_of_apply (hevent : event ≠ .enter)
    (h : e.apply s history event = .ok (e', outcome)) : e.SameRing e' := by
  have hsettle : e.SameRing e.settle := ⟨rfl, rfl, rfl⟩
  cases event with
  | printable c =>
    exact sameRing_of_map_proceed (fun _ hx => (sameRing_restore e).trans (sameRing_of_edit hx)) h
  | backspace => exact sameRing_of_map_proceed (fun _ hx => sameRing_of_restoreOrEdit hx) h
  | deleteWord => exact sameRing_of_map_proceed (fun _ hx => sameRing_of_restoreOrEdit hx) h
  | delete => exact sameRing_of_map_proceed (fun _ hx => sameRing_of_restoreOrEdit hx) h
  | tab => exact sameRing_of_map_proceed (fun _ hx => sameRing_of_tab hx) h
  | enter => exact absurd rfl hevent
  | shiftEnter =>
    obtain ⟨rfl, -⟩ := Prod.mk.inj (Except.ok.inj h)
    exact sameRing_acceptSuggestion e
  | up => exact sameRing_of_map_proceed (fun _ hx => hsettle.trans (sameRing_of_older hx)) h
  | down => exact sameRing_of_map_proceed (fun _ hx => hsettle.trans (sameRing_of_newer hx)) h
  | left => exact sameRing_of_map_proceed (fun _ hx => sameRing_of_move hx) h
  | right => exact sameRing_of_map_proceed (fun _ hx => sameRing_of_move hx) h
  | home =>
    exact sameRing_of_map_proceed (x := e.move fun b => some b.moveHome)
      (fun _ hx => sameRing_of_move hx) h
  | lineEnd =>
    exact sameRing_of_map_proceed (x := e.move fun b => some b.moveEnd)
      (fun _ hx => sameRing_of_move hx) h
  | escape =>
    obtain ⟨rfl, -⟩ := Prod.mk.inj (Except.ok.inj h)
    exact sameRing_escape e
  | interrupt =>
    obtain ⟨rfl, -⟩ := Prod.mk.inj (Except.ok.inj h)
    exact ⟨rfl, rfl, rfl⟩
  | endOfInput =>
    rw [apply] at h
    split at h
    · obtain ⟨rfl, -⟩ := Prod.mk.inj (Except.ok.inj h)
      exact .refl e
    · exact sameRing_of_map_proceed (fun _ hx => sameRing_of_restoreOrEdit hx) h
  | clearScreen =>
    obtain ⟨rfl, -⟩ := Prod.mk.inj (Except.ok.inj h)
    exact .refl e

/-- Every event but an enter keeps the ring. -/
lemma sameRing_of_handle (hevent : event ≠ .enter)
    (h : e.handle s history event = .ok (e', outcome)) : e.SameRing e' := by
  obtain ⟨applied, suggestion, happly, rfl⟩ := exists_apply_of_handle h
  have hsame := sameRing_of_apply hevent happly
  exact ⟨hsame.ring_eq, hsame.ringSize_eq, hsame.suggesting_eq⟩

/-- An enter that takes a candidate keeps the ring as well, so only submitting a line changes it. -/
lemma sameRing_of_not_submit (h : e.handle s history event = .ok (e', outcome))
    (hkept : ∀ line, outcome ≠ .submit line) : e.SameRing e' := by
  by_cases hevent : event = .enter
  · subst hevent
    obtain ⟨applied, suggestion, happly, rfl⟩ := exists_apply_of_handle h
    unfold apply enter at happly
    cases hcycle : e.cycle? with
    | some cycle =>
      rw [hcycle] at happly
      obtain ⟨rfl, -⟩ := Prod.mk.inj (Except.ok.inj happly)
      exact ⟨rfl, rfl, rfl⟩
    | none =>
      have hsubmit := outcomeOf_eq_submit.mpr ⟨rfl, hcycle, rfl⟩
      exact absurd ((outcome_of_handle h).trans hsubmit) (hkept _)
  · exact sameRing_of_handle hevent h

/-- A run without an enter keeps the ring. -/
theorem sameRing_of_run (hos : ∀ o ∈ os, o.event ≠ .enter)
    (hrun : e.run os = .ok (e', outcomes)) : e.SameRing e' := by
  induction os generalizing e outcomes with
  | nil =>
    obtain ⟨rfl, -⟩ := run_nil_eq_ok.mp hrun
    exact .refl e
  | cons o os ih =>
    obtain ⟨hevent, hevents⟩ := List.forall_mem_cons.mp hos
    obtain ⟨next, outcome, others, hstep, hothers, -⟩ := run_cons_eq_ok.mp hrun
    exact (sameRing_of_handle hevent hstep).trans (ih hevents hothers)

end TableShell.Editor
