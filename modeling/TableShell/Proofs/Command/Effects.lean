import Mathlib.Tactic.Common
import TableShell.Command.Run

/-!
# What commands change

Every command works on the shell in one place at most: the aliases, the bookmarks, the directory
before, or the wish to leave. The history is changed by no command. This holds however a command
ends, since what it has done before a failure stays.

An action is put together from smaller ones, and it changes no more than they do. So each command
is followed through its text, from the few steps that touch the shell.
-/

namespace TableShell

/-- The parts of the shell that commands can change. -/
inductive Part where
  | aliases
  | bookmarks
  | previous
  | exitRequested
  deriving DecidableEq, Repr

/-- The part of the shell that a command can change. -/
def Command.part? : Command → Option Part
  | cd => some .previous
  | jump => some .previous
  | aliases => some .aliases
  | unalias => some .aliases
  | bookmark => some .bookmarks
  | exit => some .exitRequested
  | _ => none

/-- The part of the shell that a command can change although it fails: a list that could not be
saved, or names that were dropped before one that does not exist. -/
def Command.partOnFailure? : Command → Option Part
  | aliases => some .aliases
  | unalias => some .aliases
  | bookmark => some .bookmarks
  | _ => none

/-- Two shells agree, except perhaps on one part. -/
structure Shell.AgreesBut (part? : Option Part) (a b : Shell) : Prop where
  history_eq : a.history = b.history
  aliases_eq : part? ≠ some .aliases → a.aliases = b.aliases
  bookmarks_eq : part? ≠ some .bookmarks → a.bookmarks = b.bookmarks
  previous_eq : part? ≠ some .previous → a.previous = b.previous
  exitRequested_eq : part? ≠ some .exitRequested → a.exitRequested = b.exitRequested

/-- How a session stands after an action, whether or not it has failed. -/
def Session.after {α : Type} (s : Session) (action : Action α) : Session :=
  match action s with
  | .ok _ s' => s'
  | .error _ s' => s'

/-- An action changes at most one part of the shell. -/
def Action.Changes {α : Type} (part? : Option Part) (action : Action α) : Prop :=
  ∀ s : Session, s.shell.AgreesBut part? (s.after action).shell

/-- An action that fails has changed at most one part of the shell. -/
def Action.ChangesOnFailure {α : Type} (part? : Option Part) (action : Action α) : Prop :=
  ∀ (s s' : Session) (failure : Failure), action s = .error failure s' →
    s.shell.AgreesBut part? s'.shell

namespace Shell.AgreesBut

variable {part? : Option Part} {a b c : Shell}

/-- A shell agrees with itself, whichever part is excepted. -/
lemma refl (a : Shell) : a.AgreesBut part? a :=
  ⟨rfl, fun _ => rfl, fun _ => rfl, fun _ => rfl, fun _ => rfl⟩

/-- Agreement with the same exception is passed on. -/
lemma trans (hab : a.AgreesBut part? b) (hbc : b.AgreesBut part? c) : a.AgreesBut part? c where
  history_eq := hab.history_eq.trans hbc.history_eq
  aliases_eq h := (hab.aliases_eq h).trans (hbc.aliases_eq h)
  bookmarks_eq h := (hab.bookmarks_eq h).trans (hbc.bookmarks_eq h)
  previous_eq h := (hab.previous_eq h).trans (hbc.previous_eq h)
  exitRequested_eq h := (hab.exitRequested_eq h).trans (hbc.exitRequested_eq h)

/-- Where nothing is excepted, the shells are the same. -/
lemma eq_of_none (h : a.AgreesBut none b) : a = b := by
  obtain ⟨hhistory, haliases, hbookmarks, hprevious, hexit⟩ := h
  cases a
  cases b
  simp_all

end Shell.AgreesBut

namespace Action

variable {α β : Type} {part? : Option Part}

/-! ### Putting actions together -/

/-- An answer that is given at once changes nothing. -/
lemma changes_pure (a : α) : Changes part? (pure a : Action α) :=
  fun s => .refl s.shell

/-- A failure by itself changes nothing. -/
lemma changes_throw (failure : Failure) : Changes part? (throw failure : Action α) :=
  fun s => .refl s.shell

/-- Behind a failure nothing is done any more. -/
lemma changes_throw_bind (failure : Failure) (f : α → Action β) :
    Changes part? (throw failure >>= f) :=
  fun s => .refl s.shell

/-- Asking for the session changes nothing. -/
lemma changes_get : Changes part? (get : Action Session) :=
  fun s => .refl s.shell

/-- A second action goes on where the first one has ended. -/
lemma changes_bind {x : Action α} {f : α → Action β} (hx : Changes part? x)
    (hf : ∀ a, Changes part? (f a)) : Changes part? (x >>= f) := by
  intro s
  have hfirst := hx s
  unfold Session.after at hfirst ⊢
  cases hs : x s with
  | ok a s' =>
    have hsecond := hf a s'
    rw [hs] at hfirst
    rw [show (x >>= f) s = f a s' by simp only [bind, EStateM.bind, hs]]
    exact hfirst.trans hsecond
  | error failure s' =>
    rw [hs] at hfirst
    rw [show (x >>= f) s = .error failure s' by simp only [bind, EStateM.bind, hs]]
    exact hfirst

/-- An action that is done for every element of a list changes what it changes for one. -/
lemma changes_forM {f : α → Action PUnit} (hf : ∀ a, Changes part? (f a)) (as : List α) :
    Changes part? (as.forM f) := by
  induction as with
  | nil => exact changes_pure _
  | cons a as ih => exact changes_bind (hf a) fun _ => ih

/-- Answers that are gathered along a list change what one of them changes. -/
lemma changes_mapM {f : α → Action β} (hf : ∀ a, Changes part? (f a)) (as : List α) :
    Changes part? (as.mapM f) := by
  induction as with
  | nil => exact changes_pure _
  | cons a as ih =>
    rw [List.mapM_cons]
    exact changes_bind (hf a) fun _ => changes_bind ih fun _ => changes_pure _

/-- An action that leaves the shell alone may be said to change any part of it. -/
lemma changes_of_shell_eq {x : Action α} (h : ∀ s : Session, (s.after x).shell = s.shell) :
    Changes part? x := by
  intro s
  rw [h s]
  exact .refl s.shell

/-! ### Actions that fail -/

/-- What an action changes when it fails is no more than what it changes at all. -/
lemma Changes.onFailure {x : Action α} (h : Changes part? x) : ChangesOnFailure part? x := by
  intro s s' failure hs
  have hchanged := h s
  unfold Session.after at hchanged
  rwa [hs] at hchanged

/-- A second action fails where the first one has ended; if the first one changes a part at most, so
does the whole. -/
lemma changesOnFailure_bind {x : Action α} {f : α → Action β} (hx : Changes part? x)
    (hf : ∀ a, ChangesOnFailure part? (f a)) : ChangesOnFailure part? (x >>= f) := by
  intro s s' failure h
  have hfirst := hx s
  unfold Session.after at hfirst
  simp only [bind, EStateM.bind] at h
  cases hs : x s with
  | ok a mid =>
    rw [hs] at h hfirst
    exact hfirst.trans (hf a mid s' failure h)
  | error e mid =>
    rw [hs] at h hfirst
    cases h
    exact hfirst

/-- An action that fails before a step that cannot fail has failed by itself. -/
lemma ChangesOnFailure.bind_of_ok {x : Action α} {f : α → Action β}
    (hx : ChangesOnFailure part? x) (hf : ∀ a s, ∃ b s', f a s = .ok b s') :
    ChangesOnFailure part? (x >>= f) := by
  intro s s' failure h
  simp only [bind, EStateM.bind] at h
  cases hs : x s with
  | ok a mid =>
    obtain ⟨b, last, hlast⟩ := hf a mid
    rw [hs] at h
    simp only [hlast] at h
    cases h
  | error e mid =>
    rw [hs] at h
    cases h
    exact hx s s' failure hs

/-- An action that cannot fail changes nothing by failing. -/
lemma changesOnFailure_of_ok {x : Action α} (h : ∀ s, ∃ a s', x s = .ok a s') :
    ChangesOnFailure part? x := by
  intro s s' failure hs
  obtain ⟨a, last, hlast⟩ := h s
  rw [hlast] at hs
  cases hs

/-! ### Single steps -/

/-- A question to the files leaves the shell alone. -/
lemma changes_inspect (question : FileSystem → Except FileError α) :
    Changes part? (Session.inspect question) := by
  refine changes_of_shell_eq fun s => ?_
  unfold Session.after Session.inspect
  cases question s.machine.files <;> rfl

/-- An operation on the files leaves the shell alone, whether it succeeds or not. -/
lemma changes_change (operation : FileSystem → Except FileError FileSystem) :
    Changes part? (Session.change operation) := by
  refine changes_of_shell_eq fun s => ?_
  unfold Session.after Session.change
  cases operation s.machine.files <;> rfl

/-- An operation on the files leaves the shell alone, even if it stops half-way. -/
lemma changes_changeInPart (operation : FileSystem → Except FileError Unit × FileSystem) :
    Changes part? (Session.changeInPart operation) := by
  refine changes_of_shell_eq fun s => ?_
  unfold Session.after Session.changeInPart
  rcases operation s.machine.files with ⟨_ | _, fs⟩ <;> rfl

/-- The shell after aliases have been taken on, saved or not. -/
lemma shell_after_setAliases (aliases : Pairs) (s : Session) :
    (s.after (Session.setAliases aliases)).shell = { s.shell with aliases } := by
  unfold Session.after Session.setAliases
  rcases hsave : aliases.save s.machine.files with ⟨_ | _, fs⟩ <;> simp [hsave, Session.withFiles]

/-- New aliases are put into the shell before they are saved, and no other part of it changes. -/
lemma changes_setAliases (aliases : Pairs) :
    Changes (some .aliases) (Session.setAliases aliases) := by
  intro s
  rw [shell_after_setAliases]
  exact ⟨rfl, fun h => absurd rfl h, fun _ => rfl, fun _ => rfl, fun _ => rfl⟩

/-- The shell after bookmarks have been taken on, saved or not. -/
lemma shell_after_setBookmarks (bookmarks : Pairs) (s : Session) :
    (s.after (Session.setBookmarks bookmarks)).shell = { s.shell with bookmarks } := by
  unfold Session.after Session.setBookmarks
  rcases hsave : bookmarks.save s.machine.files with ⟨_ | _, fs⟩ <;> simp [hsave, Session.withFiles]

/-- New bookmarks are put into the shell before they are saved, and no other part of it changes. -/
lemma changes_setBookmarks (bookmarks : Pairs) :
    Changes (some .bookmarks) (Session.setBookmarks bookmarks) := by
  intro s
  rw [shell_after_setBookmarks]
  exact ⟨rfl, fun _ => rfl, fun h => absurd rfl h, fun _ => rfl, fun _ => rfl⟩

end Action

open TableShell.Action

variable {part? : Option Part}

/-! ### Files and directories -/

namespace Files

/-- Of the shell, a change of the directory only sets the directory before. -/
lemma changes_changeDirectory (path : String) :
    Changes (some .previous) (changeDirectory path) := by
  unfold changeDirectory
  refine changes_bind changes_get fun s => changes_bind changes_get fun s' => ?_
  split
  · exact changes_throw_bind _ _
  · refine changes_bind (changes_change _) fun _ s => ?_
    exact ⟨rfl, fun _ => rfl, fun _ => rfl, fun h => absurd rfl h, fun _ => rfl⟩

/-- Asking for the home directory changes nothing, whether or not there is one. -/
lemma changes_home : Changes part? (do
    match (← get).machine.directories.home with
    | some home => return home
    | none => throw (.notFound "home directory is unknown") : Action String) := by
  refine changes_bind changes_get fun s => ?_
  split
  · exact changes_pure _
  · exact changes_throw _

/-- Going to a directory changes the directory before and nothing else of the shell. -/
lemma changes_cd (args : List String) : Changes (some .previous) (cd args) := by
  have hleave : ∀ path, Changes (some .previous) (do
      changeDirectory path
      return Output.nothing) :=
    fun path => changes_bind (changes_changeDirectory path) fun _ => changes_pure _
  unfold cd
  split
  · exact changes_bind changes_home hleave
  · exact changes_bind changes_home hleave
  · refine changes_bind changes_get fun s => ?_
    split
    · exact hleave _
    · exact changes_throw_bind _ _
  · exact hleave _
  · exact changes_throw_bind _ _

/-- Showing the working directory changes nothing. -/
lemma changes_pwd : Changes part? pwd :=
  changes_bind (changes_inspect _) fun _ => changes_pure _

/-- Reading the lines of a file changes nothing of the shell. -/
lemma changes_fileLines (path : String) : Changes part? (fileLines path) := by
  refine changes_of_shell_eq fun s => ?_
  unfold Session.after fileLines
  cases s.machine.files.readText path <;> rfl

/-- Showing files changes nothing of the shell. -/
lemma changes_cat (args : List String) : Changes part? (cat args) := by
  unfold cat
  split
  · exact changes_throw_bind _ _
  · exact changes_bind (changes_mapM changes_fileLines args) fun _ => changes_pure _

/-- Making directories changes the files alone. -/
lemma changes_mkdir (args : List String) : Changes part? (mkdir args) := by
  unfold mkdir
  dsimp only
  split
  · exact changes_throw_bind _ _
  · refine changes_bind (changes_forM (fun path => ?_) _) fun _ => changes_pure _
    split
    · exact changes_changeInPart _
    · exact changes_change _

/-- Removing a single path changes the files alone. -/
lemma changes_removeOne (recursive : Bool) (path : String) :
    Changes part? (removeOne recursive path) := by
  unfold removeOne
  refine changes_bind changes_get fun s => ?_
  split
  · dsimp only
    split
    · exact changes_throw_bind _ _
    · exact changes_changeInPart _
  · exact changes_change _

/-- Removing paths changes the files alone. -/
lemma changes_rm (args : List String) : Changes part? (rm args) := by
  unfold rm
  dsimp only
  split
  · exact changes_throw_bind _ _
  · exact changes_bind (changes_forM (changes_removeOne _) _) fun _ => changes_pure _

/-- Touching files changes the files alone. -/
lemma changes_touch (args : List String) : Changes part? (touch args) := by
  unfold touch
  split
  · exact changes_throw_bind _ _
  · exact changes_bind (changes_forM (fun path => changes_change _) args) fun _ => changes_pure _

end Files

/-! ### Tables -/

namespace Listing

/-- Listing a directory changes nothing of the shell. -/
lemma changes_list (args : List String) : Changes part? (list args) := by
  unfold list
  split
  · refine changes_bind (changes_pure _) fun path => changes_bind changes_get fun s => ?_
    split
    · exact changes_pure _
    · exact changes_throw _
  · refine changes_bind (changes_inspect _) fun path => changes_bind changes_get fun s => ?_
    split
    · exact changes_pure _
    · exact changes_throw _

/-- Listing the processes changes nothing of the shell. -/
lemma changes_processes : Changes part? processes :=
  changes_bind changes_get fun _ => changes_pure _

end Listing

/-! ### Aliases and bookmarks -/

namespace Naming

/-- Listing or setting aliases changes the aliases at most. -/
lemma changes_aliases (args : List String) : Changes (some .aliases) (aliases args) := by
  unfold aliases
  refine changes_bind changes_get fun s => ?_
  dsimp only
  split
  · exact changes_pure _
  · split
    · split
      · exact changes_throw_bind _ _
      · exact changes_bind (changes_setAliases _) fun _ => changes_pure _
    · split
      · exact changes_pure _
      · exact changes_throw _

/-- Dropping an alias changes the aliases at most. -/
lemma changes_dropAlias (name : String) : Changes (some .aliases) (dropAlias name) := by
  unfold dropAlias
  refine changes_bind changes_get fun s => ?_
  dsimp only
  split
  · exact changes_throw_bind _ _
  · exact changes_setAliases _

/-- Dropping several aliases changes the aliases at most. -/
lemma changes_unalias (args : List String) : Changes (some .aliases) (unalias args) := by
  unfold unalias
  split
  · exact changes_throw_bind _ _
  · exact changes_bind (changes_forM changes_dropAlias args) fun _ => changes_pure _

/-- Adding a bookmark changes the bookmarks at most. -/
lemma changes_addBookmark (name : String) (path : Option String) :
    Changes (some .bookmarks) (addBookmark name path) := by
  have hadd : ∀ target, Changes (some .bookmarks) (do
      if !(← get).machine.files.isDirectory target then
        throw (.invalidArgument s!"not a directory: {target}")
      Session.setBookmarks ((← get).shell.bookmarks.set name target) : Action Unit) := by
    intro target
    refine changes_bind changes_get fun s => ?_
    split
    · exact changes_throw_bind _ _
    · exact changes_bind changes_get fun s' => changes_setBookmarks _
  unfold addBookmark
  split
  · exact changes_bind (changes_inspect _) hadd
  · exact changes_bind (changes_inspect _) hadd

/-- Dropping a bookmark changes the bookmarks at most. -/
lemma changes_dropBookmark (name : String) : Changes (some .bookmarks) (dropBookmark name) := by
  unfold dropBookmark
  refine changes_bind changes_get fun s => ?_
  dsimp only
  split
  · exact changes_throw_bind _ _
  · exact changes_setBookmarks _

/-- The command for bookmarks changes the bookmarks at most, whichever of its words follows. -/
lemma changes_bookmark (args : List String) : Changes (some .bookmarks) (bookmark args) := by
  have hlisted : Changes (some .bookmarks) (do
      return Output.lines (bookmarkLines (← get).shell.bookmarks.entries) : Action Output) :=
    changes_bind changes_get fun _ => changes_pure _
  have hdropped : ∀ name, Changes (some .bookmarks) (do
      dropBookmark name
      return Output.nothing) :=
    fun name => changes_bind (changes_dropBookmark name) fun _ => changes_pure _
  unfold bookmark
  dsimp only
  split
  · exact hlisted
  · exact hlisted
  · exact changes_throw _
  · exact changes_bind (changes_addBookmark _ _) fun _ => changes_pure _
  · split
    · exact changes_throw _
    · exact hdropped _
  · split
    · exact changes_throw _
    · exact hdropped _
  · exact changes_throw _

/-- A jump to a bookmark changes the directory before, and not the bookmarks. -/
lemma changes_jump (args : List String) : Changes (some .previous) (jump args) := by
  unfold jump
  split
  · exact changes_throw _
  · refine changes_bind changes_get fun s => ?_
    split
    · exact changes_throw _
    · exact changes_bind (Files.changes_changeDirectory _) fun _ => changes_pure _

end Naming

/-! ### All commands -/

namespace Command

/-- Showing the history does not change it, nor any other part of the shell. -/
lemma changes_showHistory (args : List String) : Changes part? (showHistory args) := by
  unfold showHistory
  refine changes_bind changes_get fun s => ?_
  dsimp only
  split
  · exact changes_pure _
  · split
    · exact changes_pure _
    · exact changes_throw _

/-- Leaving sets the wish to leave and nothing else. -/
lemma changes_leave : Changes (some .exitRequested) leave :=
  fun _ => ⟨rfl, fun _ => rfl, fun _ => rfl, fun _ => rfl, fun h => absurd rfl h⟩

/-- A command changes at most its own part of the shell, whether or not it fails. -/
theorem changes_execute (c : Command) (args : List String) :
    Changes c.part? (c.execute args) := by
  cases c with
  | ls => exact Listing.changes_list args
  | dir => exact Listing.changes_list args
  | ps => exact Listing.changes_processes
  | cd => exact Files.changes_cd args
  | pwd => exact Files.changes_pwd
  | cat => exact Files.changes_cat args
  | mkdir => exact Files.changes_mkdir args
  | rm => exact Files.changes_rm args
  | touch => exact Files.changes_touch args
  | history => exact changes_showHistory args
  | aliases => exact Naming.changes_aliases args
  | unalias => exact Naming.changes_unalias args
  | bookmark => exact Naming.changes_bookmark args
  | jump => exact Naming.changes_jump args
  | echo => exact changes_pure _
  | clear => exact changes_pure _
  | exit => exact changes_leave
  | help => exact changes_pure _

/-! ### Commands that fail -/

/-- Where the working directory cannot be changed, the directory before stays. -/
lemma changesOnFailure_changeDirectory (path : String) :
    ChangesOnFailure part? (Files.changeDirectory path) := by
  unfold Files.changeDirectory
  refine changesOnFailure_bind changes_get fun s => changesOnFailure_bind changes_get fun s' => ?_
  split
  · exact (changes_throw_bind _ _).onFailure
  · exact (changes_change _).onFailure.bind_of_ok fun _ s => ⟨(), _, rfl⟩

/-- A change of the directory is followed by nothing that can fail. -/
lemma changesOnFailure_leaving (path : String) :
    ChangesOnFailure part? (do
      Files.changeDirectory path
      return Output.nothing) :=
  (changesOnFailure_changeDirectory path).bind_of_ok fun _ s => ⟨_, s, rfl⟩

/-- Going to a directory that cannot be entered changes nothing, not even the directory before. -/
lemma changesOnFailure_cd (args : List String) : ChangesOnFailure part? (Files.cd args) := by
  unfold Files.cd
  split
  · exact changesOnFailure_bind Files.changes_home changesOnFailure_leaving
  · exact changesOnFailure_bind Files.changes_home changesOnFailure_leaving
  · refine changesOnFailure_bind changes_get fun s => ?_
    split
    · exact changesOnFailure_leaving _
    · exact (changes_throw_bind _ _).onFailure
  · exact changesOnFailure_leaving _
  · exact (changes_throw_bind _ _).onFailure

/-- A jump that fails changes nothing, not even the directory before. -/
lemma changesOnFailure_jump (args : List String) : ChangesOnFailure part? (Naming.jump args) := by
  unfold Naming.jump
  split
  · exact (changes_throw _).onFailure
  · refine changesOnFailure_bind changes_get fun s => ?_
    split
    · exact (changes_throw _).onFailure
    · exact changesOnFailure_leaving _

/-- A command that fails has changed at most a list of aliases or bookmarks. -/
theorem changesOnFailure_execute (c : Command) (args : List String) :
    ChangesOnFailure c.partOnFailure? (c.execute args) := by
  cases c with
  | cd => exact changesOnFailure_cd args
  | jump => exact changesOnFailure_jump args
  | exit => exact changesOnFailure_of_ok fun s => ⟨_, _, rfl⟩
  | ls => exact (changes_execute ls args).onFailure
  | dir => exact (changes_execute dir args).onFailure
  | ps => exact (changes_execute ps args).onFailure
  | pwd => exact (changes_execute pwd args).onFailure
  | cat => exact (changes_execute cat args).onFailure
  | mkdir => exact (changes_execute mkdir args).onFailure
  | rm => exact (changes_execute rm args).onFailure
  | touch => exact (changes_execute touch args).onFailure
  | history => exact (changes_execute history args).onFailure
  | aliases => exact (changes_execute aliases args).onFailure
  | unalias => exact (changes_execute unalias args).onFailure
  | bookmark => exact (changes_execute bookmark args).onFailure
  | echo => exact (changes_execute echo args).onFailure
  | clear => exact (changes_execute clear args).onFailure
  | help => exact (changes_execute help args).onFailure

end Command

end TableShell
