import TableShell.Proofs.Command.Failures
import TableShell.Proofs.Fallible
import TableShell.Proofs.Pipeline.FailingLine

/-!
# Whom a failure is blamed on

A line that fails is reported in one line on the error stream, and what it has produced is not
written. The report begins with the name of the stage that is to blame. Which stage that is can be
read off the line: `BlamedOn` goes through its stages in the order in which they can fail. A name
that is not known is given as it was typed, any other by the name that the command or the filter
has, however it was spelled.

Details are added to a failure in several places, and the report looks for a filter before it looks
for a command. That blames the right one because commands never name a filter.
-/

namespace TableShell

/-! ### The name in front of a report -/

namespace Failure

variable {f : Failure}

/-- A filter that is named is to blame, whatever else is named. -/
lemma blamed_withDetail_filter (f : Failure) (name : String) :
    (f.withDetail "filter" name).blamed = name := by
  unfold blamed
  rw [detail?_withDetail, if_pos rfl]

/-- A command that is named is to blame where no filter is. -/
lemma blamed_withDetail_command (hf : f.detail? "filter" = none) (name : String) :
    (f.withDetail "command" name).blamed = name := by
  unfold blamed
  rw [detail?_filter_withDetail name hf (by decide), detail?_withDetail, if_pos rfl]

end Failure

/-! ### Filters that fail -/

namespace Filter

variable {t : Table} {stage : Stage} {stages : List Stage} {label : String} {cause : Cause}

/-- The words of a stage. -/
def Stage.words (stage : Stage) : List String :=
  stage.name :: stage.args

/-- A stage fails on a table. Either no filter has its name, which is blamed as it stands, or its
filter fails. -/
inductive Stage.Fails (t : Table) (stage : Stage) : String → Cause → Prop
  | unknown (hname : find? stage.name = none) :
      stage.Fails t stage.name (Filter.unknown stage.name).cause
  | filter {f : Filter} {failure : Failure} (hname : find? stage.name = some f)
      (hfails : f.process t stage.args = .error failure) : stage.Fails t f.name failure.cause

/-- The first stage of a chain that fails, on the table that the stages before it have produced. -/
inductive ChainFails : Table → List Stage → String → Cause → Prop
  | here {t : Table} {stage : Stage} {later : List Stage} {label : String} {cause : Cause}
      (hfails : stage.Fails t label cause) : ChainFails t (stage :: later) label cause
  | later {t next : Table} {stage : Stage} {later : List Stage} {label : String} {cause : Cause}
      (hnext : applyNamed stage.name t stage.args = .ok next)
      (hfails : ChainFails next later label cause) : ChainFails t (stage :: later) label cause

/-- A stage fails exactly where applying it does, and its failure names it. -/
lemma fails_iff : stage.Fails t label cause ↔
    ∃ failure, applyNamed stage.name t stage.args = .error failure ∧
      failure.blamed = label ∧ failure.cause = cause := by
  unfold applyNamed
  constructor
  · intro h
    cases h with
    | unknown hname =>
      refine ⟨Filter.unknown stage.name, ?_, Failure.blamed_withDetail_filter _ _, rfl⟩
      rw [hname]
    | @filter f failure hname hfails =>
      refine ⟨failure.withDetail "filter" f.name, ?_, Failure.blamed_withDetail_filter _ _, rfl⟩
      rw [hname]
      simp only [hfails, Except.mapError]
  · rintro ⟨failure, happly, rfl, rfl⟩
    cases hname : find? stage.name with
    | none =>
      simp only [hname] at happly
      obtain rfl := Except.error.inj happly
      rw [show (Filter.unknown stage.name).blamed = stage.name from
        Failure.blamed_withDetail_filter _ _]
      exact .unknown hname
    | some f =>
      simp only [hname] at happly
      cases hprocess : f.process t stage.args with
      | ok next =>
        rw [hprocess] at happly
        cases happly
      | error e =>
        rw [hprocess] at happly
        obtain rfl := Except.error.inj happly
        have hfails : stage.Fails t f.name e.cause := .filter hname hprocess
        rw [Failure.blamed_withDetail_filter]
        exact hfails

/-- A chain fails exactly where running it does, and its failure names the first stage that
fails. -/
lemma chainFails_iff : ChainFails t stages label cause ↔
    ∃ failure, runChain t stages = .error failure ∧
      failure.blamed = label ∧ failure.cause = cause := by
  induction stages generalizing t with
  | nil =>
    constructor
    · intro h
      cases h
    · rintro ⟨failure, h, -⟩
      cases h
  | cons stage later ih =>
    constructor
    · intro h
      cases h with
      | here hfails =>
        obtain ⟨failure, happly, hlabel⟩ := fails_iff.mp hfails
        exact ⟨failure, bind_eq_error.mpr (.inl happly), hlabel⟩
      | later hnext hfails =>
        obtain ⟨failure, hrun, hlabel⟩ := ih.mp hfails
        exact ⟨failure, bind_eq_error.mpr (.inr ⟨_, hnext, hrun⟩), hlabel⟩
    · rintro ⟨failure, hrun, hlabel⟩
      rcases bind_eq_error.mp hrun with happly | ⟨next, hnext, hrest⟩
      · exact .here (fails_iff.mpr ⟨failure, happly, hlabel⟩)
      · exact .later hnext (ih.mpr ⟨failure, hrest, hlabel⟩)

end Filter

namespace Pipeline

open TableShell.Filter (Stage ChainFails chainFails_iff)

variable {s s' : Session} {first name label : String} {rest args : List String} {c : Command}
  {output : Output} {t : Table} {failure : Failure} {cause : Cause}

/-! ### Reading the stages -/

/-- The stage that words are read as is the one that is written so. -/
lemma ofWords?_eq_some {words : List String} {stage : Stage} :
    Stage.ofWords? words = some stage ↔ words = stage.words := by
  cases words with
  | nil => exact iff_of_false (by rintro ⟨⟩) (by rintro ⟨⟩)
  | cons name args =>
    constructor
    · intro h
      obtain rfl := Option.some.inj h
      rfl
    · intro h
      obtain ⟨rfl, rfl⟩ := List.cons.inj h
      rfl

/-- A stage has no name only if it has no words. -/
lemma ofWords?_eq_none {words : List String} : Stage.ofWords? words = none ↔ words = [] := by
  cases words <;> simp [Stage.ofWords?]

/-- Either all stages have words and are read, or one of them has none and that is the failure. -/
lemma filterStages_cases (rest : List String) :
    (∃ stages, filterStages rest = .ok stages ∧ rest.map Line.words = stages.map Stage.words) ∨
      filterStages rest = .error emptyStage ∧ ∃ text ∈ rest, Line.words text = [] := by
  induction rest with
  | nil => exact .inl ⟨[], rfl, rfl⟩
  | cons text rest ih =>
    unfold filterStages at ih ⊢
    rw [List.mapM_cons]
    cases htext : Stage.ofWords? (Line.words text) with
    | none =>
      have hblank := ofWords?_eq_none.mp htext
      exact .inr ⟨rfl, text, List.mem_cons_self, hblank⟩
    | some stage =>
      have hwords := ofWords?_eq_some.mp htext
      rcases ih with ⟨stages, hread, hstages⟩ | ⟨hread, blank, hmem, hblank⟩
      · refine .inl ⟨stage :: stages, ?_, ?_⟩
        · rw [hread]
          rfl
        · rw [List.map_cons, List.map_cons, hwords, hstages]
      · refine .inr ⟨?_, blank, List.mem_cons_of_mem text hmem, hblank⟩
        rw [hread]
        rfl

/-- Stages that all have words are read. -/
lemma filterStages_of_words {stages : List Stage}
    (h : rest.map Line.words = stages.map Stage.words) : filterStages rest = .ok stages := by
  have hinjective : Function.Injective Stage.words := by
    intro a b hab
    obtain ⟨hname, hargs⟩ := List.cons.inj hab
    cases a
    cases b
    simp_all
  rcases filterStages_cases rest with ⟨read, hread, hstages⟩ | ⟨-, text, hmem, hblank⟩
  · rw [hread, List.map_injective_iff.mpr hinjective (hstages.symm.trans h)]
  · have hmapped : Line.words text ∈ stages.map Stage.words := by
      rw [← h]
      exact List.mem_map_of_mem hmem
    obtain ⟨stage, -, hstage⟩ := List.mem_map.mp hmapped
    rw [hblank] at hstage
    cases hstage

/-- A stage without words ends the line before any filter is applied. -/
lemma filterStages_of_blank {text : String} (hmem : text ∈ rest) (hblank : Line.words text = []) :
    filterStages rest = .error emptyStage := by
  rcases filterStages_cases rest with ⟨stages, -, hstages⟩ | ⟨hread, -⟩
  · have hmapped : [] ∈ stages.map Stage.words := by
      rw [← hstages, ← hblank]
      exact List.mem_map_of_mem hmem
    obtain ⟨stage, -, hstage⟩ := List.mem_map.mp hmapped
    cases hstage
  · exact hread

/-! ### Whom a failure is blamed on -/

/-- The command of a stage runs and has an output. -/
def Produces (s : Session) (first : String) (c : Command) (output : Output) : Prop :=
  ∃ name args s', Line.words first = name :: args ∧ Command.find? name = some c ∧
    c.execute args s = .ok output s'

/-- The name that a failure of a line is blamed on, and its cause. A line fails in the first of
these ways that it meets. -/
inductive BlamedOn (s : Session) (first : String) (rest : List String) : String → Cause → Prop
  /-- The first stage has no words, although filters follow. -/
  | noCommand (hwords : Line.words first = []) (hrest : rest ≠ []) :
      BlamedOn s first rest "ghostsh" missingCommand.cause
  /-- The first word names no command. -/
  | unknownCommand {name : String} {args : List String} (hwords : Line.words first = name :: args)
      (hname : Command.find? name = none) : BlamedOn s first rest name (unknownCommand name).cause
  /-- The command fails. -/
  | command {name : String} {args : List String} {c : Command} {failure : Failure} {s' : Session}
      (hwords : Line.words first = name :: args) (hname : Command.find? name = some c)
      (hfails : c.execute args s = .error failure s') : BlamedOn s first rest c.name failure.cause
  /-- The command produces no table for the filters that follow. -/
  | noTable {c : Command} {output : Output} (hruns : Produces s first c output) (hrest : rest ≠ [])
      (htable : ∀ t, output ≠ .table t) : BlamedOn s first rest c.name (noTable c).cause
  /-- A later stage has no words. -/
  | emptyStage {c : Command} {t : Table} {text : String} (hruns : Produces s first c (.table t))
      (hmem : text ∈ rest) (hblank : Line.words text = []) :
      BlamedOn s first rest "|" emptyStage.cause
  /-- A filter fails on the table that the stages before it have produced. -/
  | filter {c : Command} {t : Table} {stages : List Stage} {label : String} {cause : Cause}
      (hruns : Produces s first c (.table t))
      (hwords : rest.map Line.words = stages.map Stage.words)
      (hfails : ChainFails t stages label cause) : BlamedOn s first rest label cause

/-! ### Lines that fail -/

/-- How a line ends whose first stage names a command. -/
lemma runStages_of_find?_eq_some (hwords : Line.words first = name :: args)
    (hname : Command.find? name = some c) :
    runStages first rest s =
      match c.execute args s with
      | .error failure s' => .error (failure.withDetail "command" c.name) s'
      | .ok output s' =>
        match applyStages c output rest with
        | .error failure => .error failure s'
        | .ok last => .ok last s' := by
  unfold runStages
  rw [hwords]
  simp only [hname, bind, EStateM.bind, blame]
  cases c.execute args s with
  | error failure s' => rfl
  | ok output s' =>
    simp only
    cases applyStages c output rest <;> rfl

/-- A line fails behind its command as the stages there do. -/
lemma runStages_of_produces (hruns : Produces s first c output)
    (hfails : applyStages c output rest = .error failure) :
    ∃ s', runStages first rest s = .error failure s' := by
  obtain ⟨name, args, s', hwords, hname, hrun⟩ := hruns
  refine ⟨s', ?_⟩
  rw [runStages_of_find?_eq_some hwords hname, hrun]
  simp only [hfails]

/-- The filters are run on the table of the command, once the names of all are found. -/
lemma applyStages_table (c : Command) (t : Table) (hrest : rest ≠ []) :
    applyStages c (.table t) rest =
      (filterStages rest >>= Filter.runChain t) >>= fun last => .ok (.table last) := by
  unfold applyStages
  rw [if_neg (by simpa using hrest)]
  cases filterStages rest <;> rfl

/-- Without a table the filters fail, and the command is to blame. -/
lemma applyStages_of_ne_table (c : Command) (hrest : rest ≠ []) (h : ∀ t, output ≠ .table t) :
    applyStages c output rest = .error (noTable c) := by
  unfold applyStages
  rw [if_neg (by simpa using hrest)]
  cases output with
  | table t => exact absurd rfl (h t)
  | _ => rfl

/-- Whoever is to blame, the line fails and its failure says so. -/
lemma exists_runStages_of_blamedOn (h : BlamedOn s first rest label cause) :
    ∃ failure s', runStages first rest s = .error failure s' ∧
      failure.blamed = label ∧ failure.cause = cause := by
  cases h with
  | noCommand hwords hrest =>
    refine ⟨missingCommand, s, ?_, rfl, rfl⟩
    unfold runStages
    rw [hwords]
    simp only
    rw [if_neg (by simpa using hrest)]
    rfl
  | @unknownCommand _ args hwords hname =>
    refine ⟨unknownCommand label, s, ?_, Failure.blamed_withDetail_command rfl label, rfl⟩
    unfold runStages
    rw [hwords]
    simp only [hname]
    rfl
  | @command name args c failure s' hwords hname hfails =>
    refine ⟨failure.withDetail "command" c.name, s', ?_, ?_, rfl⟩
    · rw [runStages_of_find?_eq_some hwords hname, hfails]
    · exact Failure.blamed_withDetail_command (c.namesNoFilter_execute args s s' failure hfails) _
  | @noTable c output hruns hrest htable =>
    have hstages := applyStages_of_ne_table c hrest htable
    obtain ⟨s', hrun⟩ := runStages_of_produces hruns hstages
    exact ⟨_, s', hrun, Failure.blamed_withDetail_command rfl _, rfl⟩
  | @emptyStage c t text hruns hmem hblank =>
    have hstages : applyStages c (.table t) rest = .error emptyStage := by
      rw [applyStages_table c t (List.ne_nil_of_mem hmem), filterStages_of_blank hmem hblank]
      rfl
    obtain ⟨s', hrun⟩ := runStages_of_produces hruns hstages
    exact ⟨_, s', hrun, Failure.blamed_withDetail_filter _ _, rfl⟩
  | @filter c t stages _ _ hruns hwords hfails =>
    obtain ⟨failure, hchain, hlabel⟩ := chainFails_iff.mp hfails
    have hrest : rest ≠ [] := by
      rintro rfl
      obtain rfl : stages = [] := by simpa using hwords.symm
      cases hfails
    have hstages : applyStages c (.table t) rest = .error failure := by
      rw [applyStages_table c t hrest, filterStages_of_words hwords]
      exact bind_eq_error.mpr (.inl hchain)
    obtain ⟨s', hrun⟩ := runStages_of_produces hruns hstages
    exact ⟨failure, s', hrun, hlabel⟩

/-- Where the stages behind a command fail, someone is to blame. -/
lemma exists_blamedOn_of_applyStages (hruns : Produces s first c output)
    (hfails : applyStages c output rest = .error failure) :
    ∃ label, BlamedOn s first rest label failure.cause := by
  have hrest : rest ≠ [] := by
    rintro rfl
    cases hfails
  by_cases htable : ∃ t, output = .table t
  · obtain ⟨t, rfl⟩ := htable
    rw [applyStages_table c t hrest] at hfails
    rcases filterStages_cases rest with ⟨stages, hread, hwords⟩ | ⟨hread, text, hmem, hblank⟩
    · rw [hread] at hfails
      rcases bind_eq_error.mp hfails with hchain | ⟨last, -, hlast⟩
      · exact ⟨failure.blamed, .filter hruns hwords
          (chainFails_iff.mpr ⟨failure, hchain, rfl, rfl⟩)⟩
      · cases hlast
    · rw [hread] at hfails
      obtain rfl := Except.error.inj hfails
      exact ⟨_, .emptyStage hruns hmem hblank⟩
  · have hother : ∀ t, output ≠ .table t := fun t ht => htable ⟨t, ht⟩
    rw [applyStages_of_ne_table c hrest hother] at hfails
    obtain rfl := Except.error.inj hfails
    exact ⟨_, .noTable hruns hrest hother⟩

/-- Where a line fails, someone is to blame. -/
lemma exists_blamedOn (h : runStages first rest s = .error failure s') :
    ∃ label, BlamedOn s first rest label failure.cause := by
  cases hwords : Line.words first with
  | nil =>
    unfold runStages at h
    rw [hwords] at h
    simp only at h
    split at h
    · cases h
    · next hrest =>
      cases h
      exact ⟨_, .noCommand hwords (by simpa using hrest)⟩
  | cons name args =>
    cases hname : Command.find? name with
    | none =>
      unfold runStages at h
      rw [hwords] at h
      simp only [hname] at h
      cases h
      exact ⟨name, .unknownCommand hwords hname⟩
    | some c =>
      rw [runStages_of_find?_eq_some hwords hname] at h
      cases hexecute : c.execute args s with
      | error e last =>
        rw [hexecute] at h
        cases h
        have hblamed : BlamedOn s first rest c.name e.cause := .command hwords hname hexecute
        exact ⟨c.name, hblamed⟩
      | ok output last =>
        have hruns : Produces s first c output := ⟨name, args, last, hwords, hname, hexecute⟩
        rw [hexecute] at h
        simp only at h
        split at h
        · next e hstages =>
          cases h
          exact exists_blamedOn_of_applyStages hruns hstages
        · cases h

/-- The failure of a line says who is to blame, and no one else is. -/
lemma blamedOn_iff (h : runStages first rest s = .error failure s') :
    BlamedOn s first rest label cause ↔ label = failure.blamed ∧ cause = failure.cause := by
  have honly : ∀ {label cause}, BlamedOn s first rest label cause →
      label = failure.blamed ∧ cause = failure.cause := by
    intro label cause hblamed
    obtain ⟨other, last, hrun, rfl, rfl⟩ := exists_runStages_of_blamedOn hblamed
    rw [h] at hrun
    cases hrun
    exact ⟨rfl, rfl⟩
  constructor
  · exact honly
  · rintro ⟨rfl, rfl⟩
    obtain ⟨blamed, hblamed⟩ := exists_blamedOn h
    obtain ⟨rfl, -⟩ := honly hblamed
    exact hblamed

/-- A line that succeeds writes its output and reports nothing. A line that fails writes no output
and reports its failure once, behind the name of the one stage that is to blame. -/
theorem executeLine_blames (line : String) (s : Session) :
    (∃ output s', run line s = .ok output s' ∧
        executeLine line s = ({ out := output.written, err := "", failed := none }, s')) ∨
      ∃ failure s' first rest blamed, run line s = .error failure s' ∧
        stagesOf s line = first :: rest ∧
        (∀ label cause, BlamedOn s first rest label cause ↔
          label = blamed ∧ cause = failure.cause) ∧
        executeLine line s =
          ({ out := ""
             err := blamed ++ ": " ++ failure.cause.message ++ "\n"
             failed := some failure.kind }, s') := by
  unfold executeLine
  cases hrun : run line s with
  | ok output s' => exact .inl ⟨output, s', rfl, rfl⟩
  | error failure s' =>
    rw [run_eq] at hrun
    cases hstages : stagesOf s line with
    | nil =>
      rw [hstages] at hrun
      cases hrun
    | cons first rest =>
      rw [hstages] at hrun
      exact .inr ⟨failure, s', first, rest, failure.blamed, rfl, rfl,
        fun label cause => blamedOn_iff hrun, rfl⟩

end Pipeline

end TableShell
