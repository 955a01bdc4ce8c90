import TableShell.Pipeline
import TableShell.Proofs.Command.Effects

/-!
# What a failing line leaves behind

The command of a line runs before the filters behind it are looked at, and what it has done stays
when the line fails. So a failing line need not leave the shell as it was. This module says what it
can change: the part that belongs to its command, and if there are no filters only what that
command changes when it fails itself.
-/

namespace TableShell.Pipeline

open TableShell.Action

variable {α : Type} {part? : Option Part} {s s' : Session} {failure : Failure}

/-! ### Running stages -/

/-- Blaming a command does not change what has been done. -/
lemma changes_blame {action : Action α} (c : Command) (h : Changes part? action) :
    Changes part? (blame c action) := by
  intro s
  have hafter : s.after (blame c action) = s.after action := by
    unfold Session.after blame
    cases action s <;> rfl
  rw [hafter]
  exact h s

/-- Naming the command that failed changes nothing. -/
lemma changesOnFailure_blame {action : Action α} (c : Command)
    (h : ChangesOnFailure part? action) : ChangesOnFailure part? (blame c action) := by
  intro s s' failure hs
  unfold blame at hs
  cases haction : action s with
  | ok a last =>
    rw [haction] at hs
    cases hs
  | error e last =>
    rw [haction] at hs
    cases hs
    exact h s s' e haction

/-- The command that a stage names by its first word. -/
def stageCommand? (stage : String) : Option Command :=
  (Line.words stage).head?.bind Command.find?

/-- A line changes no more than the command of its first stage does. -/
lemma changes_runStages (first : String) (rest : List String) :
    Changes ((stageCommand? first).bind Command.part?) (runStages first rest) := by
  unfold runStages stageCommand?
  cases Line.words first with
  | nil =>
    simp only
    split
    · exact changes_pure _
    · exact changes_throw _
  | cons name args =>
    simp only [List.head?_cons, Option.bind_some]
    cases Command.find? name with
    | none => exact changes_throw _
    | some c =>
      refine changes_bind (changes_blame c (c.changes_execute args)) fun output => ?_
      split
      · exact changes_pure _
      · exact changes_throw _

/-- Without filters a line fails only where its command does. -/
lemma changesOnFailure_runStages (first : String) :
    ChangesOnFailure ((stageCommand? first).bind Command.partOnFailure?) (runStages first []) := by
  unfold runStages stageCommand?
  cases Line.words first with
  | nil => exact (changes_pure _).onFailure
  | cons name args =>
    simp only [List.head?_cons, Option.bind_some]
    cases Command.find? name with
    | none => exact (changes_throw _).onFailure
    | some c =>
      have hfailure := changesOnFailure_blame c (c.changesOnFailure_execute args)
      exact hfailure.bind_of_ok fun output s => ⟨output, s, rfl⟩

/-! ### Lines -/

/-- The stages of a line, after the alias at its start has been replaced. -/
def stagesOf (s : Session) (line : String) : List String :=
  Line.stages (Naming.expand s.shell.aliases line)

/-- The command of a line, if its first stage names one. -/
def command? (s : Session) (line : String) : Option Command :=
  (stagesOf s line).head?.bind stageCommand?

/-- The aliases are looked up once, when the line begins. -/
lemma run_eq (line : String) (s : Session) :
    run line s =
      match stagesOf s line with
      | [] => .ok .nothing s
      | first :: rest => runStages first rest s := by
  have hget : ∀ f : Session → Action Output, ((get : Action Session) >>= f) s = f s s :=
    fun _ => rfl
  rw [run, hget, ← stagesOf]
  cases stagesOf s line <;> rfl

/-- What a failing line leaves behind. The history is as it was, and so is the rest of the shell
but for the part that belongs to the command of the line. If that command owns no part, or there is
none, the shell is as it was altogether. Without filters the directory before and the wish to leave
are as they were as well, since they change only where a command succeeds. -/
theorem agreesBut_of_failing_line {line : String} (h : run line s = .error failure s') :
    s.shell.AgreesBut ((command? s line).bind Command.part?) s'.shell ∧
      ((command? s line).bind Command.part? = none → s.shell = s'.shell) ∧
      ((stagesOf s line).length ≤ 1 →
        s.shell.AgreesBut ((command? s line).bind Command.partOnFailure?) s'.shell) := by
  rw [run_eq] at h
  unfold command?
  cases hstages : stagesOf s line with
  | nil =>
    rw [hstages] at h
    cases h
  | cons first rest =>
    rw [hstages] at h
    simp only [List.head?_cons, Option.bind_some]
    have hchanged := (changes_runStages first rest).onFailure s s' failure h
    refine ⟨hchanged, ?_, ?_⟩
    · intro hnone
      rw [hnone] at hchanged
      exact hchanged.eq_of_none
    · intro hlength
      obtain rfl : rest = [] := by simpa using hlength
      exact changesOnFailure_runStages first s s' failure h

/-! ### Failing lines that change the shell -/

/-- A session with one alias, which is kept in memory only. -/
def oneAlias : Session where
  shell := { aliases := { entries := [("a", "ls")] } }

/-- A line that is reported as failed has failed, and the session stands as reported. -/
lemma exists_error_of_failed {line : String} {kind : FailureKind}
    (h : (executeLine line s).1.failed = some kind) :
    ∃ failure, run line s = .error failure (executeLine line s).2 := by
  unfold executeLine at h ⊢
  cases hrun : run line s with
  | ok output last =>
    rw [hrun] at h
    cases h
  | error failure last => exact ⟨failure, rfl⟩

/-- Dropping two aliases of which only the first one exists fails after the first one has gone, and
a filter behind the command that leaves the shell fails after it has been asked to leave. -/
theorem failing_lines_change_shell :
    (∃ failure s', run "unalias a b" oneAlias = .error failure s' ∧
        oneAlias.shell.aliases ≠ s'.shell.aliases) ∧
      ∃ failure s', run "exit | limit 1" oneAlias = .error failure s' ∧
        oneAlias.shell.exitRequested ≠ s'.shell.exitRequested := by
  constructor
  · have hfailed : (executeLine "unalias a b" oneAlias).1.failed = some .notFound := by
      decide +kernel
    obtain ⟨failure, herror⟩ := exists_error_of_failed hfailed
    exact ⟨failure, _, herror, by decide +kernel⟩
  · have hfailed : (executeLine "exit | limit 1" oneAlias).1.failed = some .invalidArgument := by
      decide +kernel
    obtain ⟨failure, herror⟩ := exists_error_of_failed hfailed
    exact ⟨failure, _, herror, by decide +kernel⟩

/-- In particular dropping an alias that does not exist, with no filter behind it, changes nothing
but aliases. -/
theorem agreesBut_of_failing_unalias :
    ∃ failure s', run "unalias a b" oneAlias = .error failure s' ∧
      oneAlias.shell.AgreesBut (some .aliases) s'.shell := by
  have hfailed : (executeLine "unalias a b" oneAlias).1.failed = some .notFound := by
    decide +kernel
  obtain ⟨failure, herror⟩ := exists_error_of_failed hfailed
  have hcommand : command? oneAlias "unalias a b" = some .unalias := by decide +kernel
  have hchanged := (agreesBut_of_failing_line herror).1
  rw [hcommand] at hchanged
  exact ⟨failure, _, herror, hchanged⟩

end TableShell.Pipeline
