import Mathlib.Data.List.Forall2
import TableShell.Proofs.Editor.Runs

/-!
# Suggestions leave the line alone

What is suggested behind a line is shown and nothing more: unless it is taken up, a session with
suggestions and one without them do the same at every step. This compares two runs. It holds
because every operation but taking up a suggestion commutes with forgetting the suggestion, so that
the run without suggestions is the image of the one with them.
-/

namespace TableShell.Editor

/-! ### Two editors -/

/-- Two editors agree on everything but suggestions. -/
structure Agrees (e e' : Editor) : Prop where
  line_eq : e.line = e'.line
  cycle?_eq : e.cycle? = e'.cycle?
  walk?_eq : e.walk? = e'.walk?
  armed_eq : e.armed = e'.armed
  ring_eq : e.ring = e'.ring

/-- The editor without its suggestion, making none from now on. -/
def plain (e : Editor) : Editor :=
  { e with suggestion := none, suggesting := false }

/-- An editor agrees with itself without its suggestion. -/
lemma agrees_plain (e : Editor) : e.Agrees e.plain :=
  ⟨rfl, rfl, rfl, rfl, rfl⟩

/-! ### Steps of a session -/

/-- What one event does. -/
structure Step where
  before : Editor
  outcome : Outcome
  after : Editor
  deriving DecidableEq

/-- The steps of a session. The first error ends them. -/
def steps (e : Editor) : List Occurrence → Except ContextError (List Step)
  | [] => .ok []
  | o :: os => do
    let (e', outcome) ← e.handle o.suggester o.history o.event
    let later ← e'.steps os
    return { before := e, outcome, after := e' } :: later

/-- Two steps begin and end in editors that agree, with the same outcome. -/
structure Step.Agrees (x y : Step) : Prop where
  before : x.before.Agrees y.before
  outcome_eq : x.outcome = y.outcome
  after : x.after.Agrees y.after

/-- A line that is submitted is the line that stood in the editor. -/
def Step.SubmitsLine (x : Step) : Prop :=
  ∀ line, x.outcome = .submit line → line = x.before.line.text

/-- A step without suggestions. -/
def Step.plain (x : Step) : Step where
  before := x.before.plain
  outcome := x.outcome
  after := x.after.plain

/-- A step agrees with itself without suggestions. -/
lemma Step.agrees_plain (x : Step) : x.Agrees x.plain :=
  ⟨x.before.agrees_plain, rfl, x.after.agrees_plain⟩

variable {e e' : Editor} {s : Suggester} {history : List String} {event : Event}
  {outcome : Outcome} {os : List Occurrence}

/-! ### Operations without suggestions -/

/-- Returning to what was typed does not look at the suggestion. -/
lemma restore_plain (e : Editor) : e.plain.restore = e.restore.plain := by
  unfold restore
  cases hcycle : e.cycle? <;> simp [plain, hcycle]

/-- Editing the line does not look at the suggestion. -/
lemma edit_plain (e : Editor) (change : LineBuffer → Option LineBuffer) :
    e.plain.edit change = (e.edit change).map plain := by
  unfold edit
  cases hline : ContextError.offBoundary.unless (change e.line) <;>
    simp [plain, hline, bind, Except.bind, pure, Except.pure, Except.map]

/-- Where candidates may be tried, editing the line does not look at the suggestion. -/
lemma restoreOrEdit_plain (e : Editor) (change : LineBuffer → Option LineBuffer) :
    e.plain.restoreOrEdit change = (e.restoreOrEdit change).map plain := by
  unfold restoreOrEdit
  rw [show e.plain.cycle? = e.cycle? from rfl]
  cases e.cycle? with
  | some cycle =>
    rw [restore_plain]
    rfl
  | none => exact e.edit_plain change

/-- Moving the cursor does not look at the suggestion. -/
lemma move_plain (e : Editor) (motion : LineBuffer → Option LineBuffer) :
    e.plain.move motion = (e.move motion).map plain := by
  unfold move
  cases hline : ContextError.offBoundary.unless (motion e.line) <;>
    simp [plain, settle, hline, bind, Except.bind, pure, Except.pure, Except.map]

/-- Showing a candidate does not look at the suggestion that it replaces. -/
lemma showCandidate_plain (e : Editor) (c : Cycle) :
    e.plain.showCandidate c = (e.showCandidate c).map plain := by
  unfold showCandidate
  cases c.candidates[c.index]? with
  | none => rfl
  | some candidate =>
    cases hline : ContextError.offBoundary.unless
        (c.typed.replaceBack? c.replaceFrom candidate) <;>
      simp [plain, hline, bind, Except.bind, pure, Except.pure, Except.map]

/-- A tab asks for candidates, whether or not suggestions are made. -/
lemma tab_plain (e : Editor) (s : Suggester) : e.plain.tab s = (e.tab s).map plain := by
  unfold tab
  rw [show e.plain.cycle? = e.cycle? from rfl, show e.plain.line = e.line from rfl]
  cases e.cycle? with
  | some cycle =>
    simp only
    cases ContextError.noEntry.unless cycle.advance? with
    | error err => rfl
    | ok next => exact e.showCandidate_plain next
  | none =>
    simp only
    cases s.complete e.line.text e.line.cursor with
    | error err => rfl
    | ok completion =>
      simp only [bind, Except.bind]
      split
      · rfl
      · exact showCandidate_plain { e with walk? := none, armed := false } _

/-- Showing an earlier line does not look at the suggestion. -/
lemma showEntry_plain (e : Editor) (w : Walk) :
    e.plain.showEntry w = (e.showEntry w).map plain := by
  unfold showEntry
  cases hentry : ContextError.noEntry.unless w.entries[w.index]? <;>
    simp [plain, bind, Except.bind, pure, Except.pure, Except.map]

/-- Going to an older line does not look at the suggestion. -/
lemma older_plain (e : Editor) (history : List String) :
    e.plain.older history = (e.older history).map plain := by
  unfold older
  rw [show e.plain.walk? = e.walk? from rfl]
  cases e.walk? with
  | some w =>
    simp only
    split
    · rfl
    · exact e.showEntry_plain _
  | none =>
    simp only [show e.plain.walkEntries history = e.walkEntries history from rfl]
    split
    · rfl
    · exact e.showEntry_plain _

/-- Going to a newer line does not look at the suggestion. -/
lemma newer_plain (e : Editor) : e.plain.newer = e.newer.map plain := by
  unfold newer
  rw [show e.plain.walk? = e.walk? from rfl]
  cases e.walk? with
  | none => rfl
  | some w =>
    simp only
    split
    · rfl
    · exact e.showEntry_plain _

/-- A line is put into the ring whether or not a suggestion stands behind it. -/
lemma remember_plain (e : Editor) (line : String) :
    e.plain.remember line = (e.remember line).plain := by
  unfold remember
  rw [apply_ite plain]
  rfl

/-- An enter submits the line without the suggestion behind it. -/
lemma enter_plain (e : Editor) : e.plain.enter = (e.enter.1.plain, e.enter.2) := by
  unfold enter
  rw [show e.plain.cycle? = e.cycle? from rfl]
  cases e.cycle? with
  | some cycle => rfl
  | none => exact congrArg (·, _) (e.resetLine.remember_plain e.line.text)

/-- An escape drops the suggestion, and for the rest does not look at it. -/
lemma escape_plain (e : Editor) : e.plain.escape = e.escape.plain := by
  unfold escape
  rw [show e.plain.cycle? = e.cycle? from rfl, show e.plain.walk? = e.walk? from rfl]
  cases hcycle : e.cycle? with
  | some cycle =>
    simp only [restore_plain]
    rfl
  | none => cases e.walk? <;> rfl

/-! ### Events without suggestions -/

/-- An operation that commutes with forgetting the suggestion does so as an event. -/
lemma map_proceed_plain {x y : Except ContextError Editor} (h : y = x.map plain) :
    y.map (·, Outcome.proceed) = (x.map (·, Outcome.proceed)).map (Prod.map plain id) := by
  rw [h]
  cases x <;> rfl

/-- Every event but taking up a suggestion does the same without suggestions. -/
lemma apply_plain (e : Editor) (s : Suggester) (history : List String)
    (hevent : event ≠ .shiftEnter) :
    e.plain.apply s history event = (e.apply s history event).map (Prod.map plain id) := by
  cases event with
  | printable c =>
    refine map_proceed_plain ?_
    rw [restore_plain, edit_plain]
  | backspace => exact map_proceed_plain (e.restoreOrEdit_plain _)
  | deleteWord => exact map_proceed_plain (e.restoreOrEdit_plain _)
  | delete => exact map_proceed_plain (e.restoreOrEdit_plain _)
  | tab => exact map_proceed_plain (e.tab_plain s)
  | enter =>
    unfold apply
    rw [enter_plain]
    rfl
  | shiftEnter => exact absurd rfl hevent
  | up => exact map_proceed_plain (e.settle.older_plain history)
  | down => exact map_proceed_plain e.settle.newer_plain
  | left => exact map_proceed_plain (e.move_plain _)
  | right => exact map_proceed_plain (e.move_plain _)
  | home => exact map_proceed_plain (e.move_plain fun b => some b.moveHome)
  | lineEnd => exact map_proceed_plain (e.move_plain fun b => some b.moveEnd)
  | escape =>
    unfold apply
    rw [escape_plain]
    rfl
  | interrupt => rfl
  | endOfInput =>
    rw [apply, apply, show e.plain.line = e.line from rfl]
    split
    · rfl
    · exact map_proceed_plain (e.restoreOrEdit_plain _)
  | clearScreen => rfl

/-- Without suggestions an event has the same outcome, and it leads to the same editor. It has a
result wherever there is one with suggestions. -/
lemma handle_plain (hevent : event ≠ .shiftEnter)
    (h : e.handle s history event = .ok (e', outcome)) :
    e.plain.handle s history event = .ok (e'.plain, outcome) := by
  obtain ⟨applied, suggestion, happly, rfl⟩ := exists_apply_of_handle h
  have hplain : e.plain.apply s history event = .ok (applied.plain, outcome) := by
    rw [apply_plain e s history hevent, happly]
    rfl
  rw [handle_of_apply hplain]
  split
  · rfl
  · rfl

/-! ### Submitted lines -/

/-- A line is submitted as it stands, by whatever event. -/
lemma line_of_submit {line : String} (h : e.handle s history event = .ok (e', .submit line)) :
    line = e.line.text := by
  obtain ⟨-, -, hline⟩ := outcomeOf_eq_submit.mp (outcome_of_handle h).symm
  exact hline.symm

/-! ### Sessions -/

/-- The steps of a session are those of its first event and then the others. -/
lemma steps_cons_eq_ok {o : Occurrence} {xs : List Step} :
    e.steps (o :: os) = .ok xs ↔
      ∃ next outcome later, e.handle o.suggester o.history o.event = .ok (next, outcome) ∧
        next.steps os = .ok later ∧
        xs = { before := e, outcome, after := next } :: later := by
  constructor
  · intro h
    obtain ⟨⟨next, outcome⟩, hstep, h⟩ := bind_eq_ok.mp h
    obtain ⟨later, hlater, h⟩ := bind_eq_ok.mp h
    exact ⟨next, outcome, later, hstep, hlater, (Except.ok.inj h).symm⟩
  · rintro ⟨next, outcome, later, hstep, hlater, rfl⟩
    rw [steps, hstep]
    simp only [bind, Except.bind, hlater]
    rfl

/-- The session without suggestions is the image of the one with them. -/
lemma steps_plain {xs : List Step} (hos : ∀ o ∈ os, o.event ≠ .shiftEnter)
    (h : e.steps os = .ok xs) : e.plain.steps os = .ok (xs.map Step.plain) := by
  induction os generalizing e xs with
  | nil =>
    obtain rfl := Except.ok.inj h
    rfl
  | cons o os ih =>
    obtain ⟨hevent, hevents⟩ := List.forall_mem_cons.mp hos
    obtain ⟨next, outcome, later, hstep, hlater, rfl⟩ := steps_cons_eq_ok.mp h
    exact steps_cons_eq_ok.mpr
      ⟨next.plain, outcome, later.map Step.plain, handle_plain hevent hstep, ih hevents hlater, rfl⟩

/-- In every step of a session a submitted line is the line that stood in the editor. -/
lemma submitsLine_of_steps {xs : List Step} (h : e.steps os = .ok xs) :
    ∀ x ∈ xs, x.SubmitsLine := by
  induction os generalizing e xs with
  | nil =>
    obtain rfl := Except.ok.inj h
    simp
  | cons o os ih =>
    obtain ⟨next, outcome, later, hstep, hlater, rfl⟩ := steps_cons_eq_ok.mp h
    refine List.forall_mem_cons.mpr ⟨?_, ih hlater⟩
    rintro line rfl
    exact line_of_submit hstep

/-- Over any events but taking up a suggestion, a session that makes suggestions and one that makes
none agree at every step on the outcome and on everything but suggestions. The second one has a
result wherever the first one has. In both, a submitted line is the line that stood in the
editor. -/
theorem exists_steps_without_suggestions {ringSize : Nat} {xs : List Step}
    (hos : ∀ o ∈ os, o.event ≠ .shiftEnter)
    (h : steps { ringSize, suggesting := true } os = .ok xs) :
    ∃ ys, steps { ringSize, suggesting := false } os = .ok ys ∧
      List.Forall₂ Step.Agrees xs ys ∧ (∀ x ∈ xs, x.SubmitsLine) ∧ ∀ y ∈ ys, y.SubmitsLine := by
  have hplain : steps { ringSize, suggesting := false } os = .ok (xs.map Step.plain) :=
    steps_plain hos h
  refine ⟨xs.map Step.plain, hplain, ?_, submitsLine_of_steps h, submitsLine_of_steps hplain⟩
  exact List.forall₂_map_right_iff.mpr (List.forall₂_same.mpr fun x _ => x.agrees_plain)

/-! ### A session -/

/-- A history with one line that may continue what is typed. -/
def suggestingListing : Suggester where
  sources := {
    commands := [], aliases := [], bookmarks := []
    entries := fun _ _ => []
    continuations := fun _ _ => ["ls -l"] }

/-- A line is typed and submitted. -/
def submittingList : List Occurrence :=
  [.printable 'l', .printable 's', .enter].map fun event => ⟨event, suggestingListing, []⟩

/-- The line as typed, with the rest of the line of the history behind it. -/
def suggestedList : Editor where
  line := .atEnd "ls"
  suggestion := some { ghost := " -l", accepted := "ls -l", source := .history }

/-- What happens while the rest of the line is suggested. -/
def suggestedSteps : List Step :=
  [{ before := {}, outcome := .proceed, after := { line := .atEnd "l" } },
    { before := { line := .atEnd "l" }, outcome := .proceed, after := suggestedList },
    { before := suggestedList, outcome := .submit "ls", after := { ring := ["ls"] } }]

/-- In particular a line is submitted as typed while the rest of another one is suggested. -/
theorem exists_steps_without_suggestions_list :
    (∀ o ∈ submittingList, o.event ≠ .shiftEnter) ∧
      steps { ringSize := 50, suggesting := true } submittingList = .ok suggestedSteps ∧
      ∃ ys, steps { ringSize := 50, suggesting := false } submittingList = .ok ys ∧
        List.Forall₂ Step.Agrees suggestedSteps ys ∧
        (∀ x ∈ suggestedSteps, x.SubmitsLine) ∧ ∀ y ∈ ys, y.SubmitsLine := by
  have hos : ∀ o ∈ submittingList, o.event ≠ .shiftEnter := by simp [submittingList]
  have hsteps : steps { ringSize := 50, suggesting := true } submittingList =
      .ok suggestedSteps := by decide +kernel
  exact ⟨hos, hsteps, exists_steps_without_suggestions hos hsteps⟩

end TableShell.Editor
