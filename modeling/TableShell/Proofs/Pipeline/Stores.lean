import TableShell.Proofs.Command.Stores
import TableShell.Proofs.Line.Characters
import TableShell.Proofs.Pipeline.FailingLine

/-!
# Stores that persist

Lines that run the commands for aliases keep the file of the aliases and the list in memory
together: after every line, failed or not, the file is loaded as the aliases that the shell has.
That rests on what can become an alias. A line without line feeds has none in its words, names are
checked, and what is replaced at the start of a line is an alias itself.

Lines that run the command for bookmarks keep what is written in step with memory just as well. But
a bookmark takes any word for its name and any directory for its value, so what is written need not
be read as it was. It is exactly where all bookmarks are storable.
-/

namespace TableShell.Pipeline

open TableShell.Action
open TableShell.Pairs (IsStorable)
open TableShell.Session (AliasesSaved BookmarksSaved)

variable {I : Session → Prop} {path line : String} {lines : List String} {s : Session}

/-! ### One line -/

/-- Blaming a command adds no name of a file. -/
lemma keepsAt_blame {α : Type} {action : Action α} (c : Command) (h : KeepsAt I s action) :
    KeepsAt I s (blame c action) := by
  intro hsaves hs
  have hpath : ∀ failure : Failure,
      (failure.withDetail "command" c.name).detail? "path" = failure.detail? "path" := by
    intro failure
    rw [Failure.detail?_withDetail, if_neg (by decide)]
  unfold KeepsAt Session.saves Session.after at h
  unfold Session.saves Session.after blame at *
  cases haction : action s with
  | ok a last =>
    rw [haction] at h
    exact h rfl hs
  | error failure last =>
    rw [haction] at h hsaves
    have hsaves : ((failure.withDetail "command" c.name).detail? "path").isNone = true := hsaves
    rw [hpath failure] at hsaves
    exact h hsaves hs

/-- A stage with a command keeps what the command keeps when it is run on the other words. -/
lemma keepsAt_runStages {first : String} {rest : List String}
    (h : ∀ c args, stageCommand? first = some c → (∀ word ∈ args, word ∈ Line.words first) →
      KeepsAt I s (c.execute args)) : KeepsAt I s (runStages first rest) := by
  unfold stageCommand? at h
  unfold runStages
  cases hwords : Line.words first with
  | nil =>
    simp only
    split
    · exact keepsAt_pure _
    · exact keepsAt_throw _
  | cons name args =>
    simp only [hwords, List.head?_cons, Option.bind_some] at h ⊢
    cases hcommand : Command.find? name with
    | none => exact keepsAt_throw _
    | some c =>
      have hexecute := h c args hcommand fun word hword => List.mem_cons_of_mem _ hword
      refine keepsAt_bind (keepsAt_blame c hexecute) fun output s' => ?_
      split
      · exact keepsAt_pure _
      · exact keepsAt_throw _

/-- A line keeps what its command keeps when it is run on words of the line. -/
lemma keepsAt_run (h : ∀ c args, command? s line = some c →
    (∀ word ∈ args, ∃ stage ∈ stagesOf s line, word ∈ Line.words stage) →
      KeepsAt I s (c.execute args)) : KeepsAt I s (run line) := by
  unfold command? at h
  cases hstages : stagesOf s line with
  | nil =>
    refine (keepsAt_pure Output.nothing).congr ?_
    rw [run_eq, hstages]
    rfl
  | cons first rest =>
    rw [hstages] at h
    have hfirst : KeepsAt I s (runStages first rest) := by
      refine keepsAt_runStages fun c args hcommand hargs => h c args hcommand ?_
      intro word hword
      exact ⟨first, List.mem_cons_self, hargs word hword⟩
    refine hfirst.congr ?_
    rw [run_eq, hstages]

/-! ### Runs -/

/-- How a session stands after lines have been run one after the other, whether or not they
failed. -/
def afterAll (s : Session) (lines : List String) : Session :=
  lines.foldl (fun s line => s.after (run line)) s

/-- Whether the lines of a run have no commands but the given ones, and no line fails to save. -/
def savesAll (commands : List Command) (s : Session) : List String → Bool
  | [] => true
  | line :: rest =>
    (command? s line).all commands.contains && s.saves (run line) &&
      savesAll commands (s.after (run line)) rest

/-- What every line keeps is kept by a run. -/
lemma afterAll_of_keepsAt {commands : List Command}
    (hline : ∀ s, ∀ line ∈ lines, (command? s line).all commands.contains = true → I s →
      KeepsAt I s (run line))
    (hsaves : savesAll commands s lines = true) (hs : I s) : I (afterAll s lines) := by
  unfold afterAll
  induction lines generalizing s with
  | nil => exact hs
  | cons line rest ih =>
    obtain ⟨hfirst, hrest⟩ := Bool.and_eq_true_iff.mp hsaves
    obtain ⟨hcommand, hfirst⟩ := Bool.and_eq_true_iff.mp hfirst
    have hnext := hline s line List.mem_cons_self hcommand hs hfirst hs
    rw [List.foldl_cons]
    exact ih (fun s line hmem => hline s line (List.mem_cons_of_mem _ hmem)) hrest hnext

/-! ### Aliases -/

/-- Words of a line hold no line feed, if the line holds none and no alias brings one in. -/
lemma notMem_of_mem_words {stage word : String} (hline : '\n' ∉ line.toList)
    (hstorable : ∀ e ∈ s.shell.aliases.entries, IsStorable e) (hstage : stage ∈ stagesOf s line)
    (hword : word ∈ Line.words stage) : '\n' ∉ word.toList := by
  have hexpanded := Line.forall_mem_expand (P := (· ≠ '\n'))
    (fun c hc hfeed => hline (hfeed ▸ hc))
    fun e he c hc hfeed => (hstorable e he).value.no_feed (hfeed ▸ hc)
  have hstages := Line.forall_mem_stages hexpanded stage hstage
  intro hfeed
  exact Line.forall_mem_words hstages word hword '\n' hfeed rfl

/-- A line that runs a command for aliases keeps them saved. -/
lemma keepsAt_run_aliases (hline : '\n' ∉ line.toList)
    (hcommand : (command? s line).all [Command.aliases, .unalias].contains = true)
    (hs : s.AliasesSaved path) : KeepsAt (AliasesSaved path) s (run line) := by
  refine keepsAt_run fun c args hc hargs => ?_
  have hfeed : ∀ word ∈ args, '\n' ∉ word.toList := by
    intro word hword
    obtain ⟨stage, hstage, hwords⟩ := hargs word hword
    exact notMem_of_mem_words hline hs.storable hstage hwords
  obtain rfl | rfl : c = .aliases ∨ c = .unalias := by simpa [hc] using hcommand
  · exact Naming.keepsAt_aliases hfeed
  · exact Naming.keepsAt_unalias args

/-- A shell has loaded its aliases from a file, or found no such file. It then runs lines without
line feeds that define and drop aliases, and every list that has to be saved can be written. Whether
or not the lines fail, the file is afterwards loaded as the aliases that the shell has: the same
names with the same commands in the same order. -/
theorem loadOrEmpty_aliases_afterAll
    (hloaded : Pairs.load s.machine.files path = .ok s.shell.aliases)
    (hfeed : ∀ line ∈ lines, '\n' ∉ line.toList)
    (hsaves : savesAll [.aliases, .unalias] s lines = true) :
    Pairs.loadOrEmpty (afterAll s lines).machine.files (some path) =
      (afterAll s lines).shell.aliases := by
  have hstart : s.AliasesSaved path :=
    ⟨Pairs.savedIn_of_load hloaded, Pairs.isStorable_of_load hloaded⟩
  have hend : (afterAll s lines).AliasesSaved path :=
    afterAll_of_keepsAt
      (fun s line hmem hcommand hs => keepsAt_run_aliases (hfeed line hmem) hcommand hs)
      hsaves hstart
  exact hend.saved.loadOrEmpty_eq_iff.mpr hend.storable

/-- A session that has loaded aliases from a file in which a name is repeated. -/
def loadedAliases : Session :=
  let files : FileSystem := {
    entries := [(["aliases"],
      { node := .file (.text " ll = ls -l\n# none\n=\nkeep=echo a=b\r\nll=pwd\nend=exit") })] }
  { shell := .load files { aliases := some "aliases" }, machine := { files } }

/-- Lines that define aliases and drop them. Some of them fail, and an alias is replaced by the
command that defines aliases. -/
def aliasLines : List String :=
  ["alias \"set=alias\"", "set x =\" a | b \" | limit 1", "unalias ll nope keep", "alias a b=c",
    "unalias set", "alias keep="]

/-- After these lines the file holds the four aliases that are left. -/
theorem loadOrEmpty_aliases_afterAll_aliasLines :
    Pairs.loadOrEmpty (afterAll loadedAliases aliasLines).machine.files (some "aliases") =
        (afterAll loadedAliases aliasLines).shell.aliases ∧
      (afterAll loadedAliases aliasLines).shell.aliases.entries =
        [("keep", ""), ("ll", "pwd"), ("end", "exit"), ("x", "a | b")] := by
  constructor
  · apply loadOrEmpty_aliases_afterAll
    · decide +kernel
    · decide +kernel
    · decide +kernel
  · decide +kernel

/-! ### Bookmarks -/

/-- A line that runs the command for bookmarks keeps what is written of them in step. -/
lemma keepsAt_run_bookmarks
    (hcommand : (command? s line).all [Command.bookmark].contains = true) :
    KeepsAt (BookmarksSaved path) s (run line) := by
  refine keepsAt_run fun c args hc _ => ?_
  obtain rfl : c = .bookmark := by simpa [hc] using hcommand
  exact Naming.keepsAt_bookmark args

/-- A shell has loaded its bookmarks from a file, or found no such file. It then runs lines that add
and drop bookmarks, and every list that has to be saved can be written. The file is afterwards
loaded as the bookmarks that the shell has exactly if all of them are storable: their names hold
something and no equals sign, and neither names nor directories hold line feeds or have blanks at
their ends. -/
theorem loadOrEmpty_bookmarks_afterAll_iff
    (hloaded : Pairs.load s.machine.files path = .ok s.shell.bookmarks)
    (hsaves : savesAll [.bookmark] s lines = true) :
    Pairs.loadOrEmpty (afterAll s lines).machine.files (some path) =
        (afterAll s lines).shell.bookmarks ↔
      ∀ e ∈ (afterAll s lines).shell.bookmarks.entries, IsStorable e := by
  have hend : (afterAll s lines).BookmarksSaved path :=
    afterAll_of_keepsAt (fun s line _ hcommand _ => keepsAt_run_bookmarks hcommand) hsaves
      (Pairs.savedIn_of_load hloaded)
  exact hend.loadOrEmpty_eq_iff

/-- A session without a file of bookmarks, and with a directory whose name ends in a blank. -/
def newBookmarks : Session where
  shell := { bookmarks := { path := some "bookmarks" } }
  machine := { files := { entries := [(["end "], { node := .directory })] } }

/-- The bookmark that is added there is loaded again. -/
theorem loadOrEmpty_bookmarks_afterAll_newBookmarks :
    Pairs.loadOrEmpty
        (afterAll newBookmarks ["bookmark add top", "bookmark rm nope"]).machine.files
        (some "bookmarks") =
      { entries := [("top", "/")], path := some "bookmarks" } := by
  have hentries : (afterAll newBookmarks ["bookmark add top", "bookmark rm nope"]).shell.bookmarks =
      { entries := [("top", "/")], path := some "bookmarks" } := by
    decide +kernel
  rw [← hentries]
  refine (loadOrEmpty_bookmarks_afterAll_iff (by decide +kernel) (by decide +kernel)).mpr ?_
  rw [hentries]
  intro e he
  obtain rfl := List.mem_singleton.mp he
  exact ⟨⟨by decide +kernel, by decide +kernel, by decide +kernel, by decide +kernel⟩,
    ⟨by decide +kernel, by decide +kernel⟩⟩

/-- A bookmark whose name holds an equals sign is loaded under another name, a bookmark without a
name is lost, and a directory whose name ends in a blank is loaded as another one. -/
theorem bookmarks_are_not_loaded :
    Pairs.load newBookmarks.machine.files "bookmarks" = .ok newBookmarks.shell.bookmarks ∧
      ∀ line ∈ ["bookmark add \"a=b\"", "bookmark add \"\"", "bookmark add d \"end \""],
        '\n' ∉ line.toList ∧ savesAll [.bookmark] newBookmarks [line] = true ∧
          Pairs.loadOrEmpty (afterAll newBookmarks [line]).machine.files (some "bookmarks") ≠
            (afterAll newBookmarks [line]).shell.bookmarks := by
  decide +kernel

end TableShell.Pipeline
