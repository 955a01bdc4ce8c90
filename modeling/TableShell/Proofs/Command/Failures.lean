import TableShell.Command.Run
import TableShell.Proofs.Pairs.Saving

/-!
# How commands fail

A command that fails says what was wrong with its words, with the files or with the lists of the
shell, and may name itself or a file. It never names a filter. So a failure that names a filter has
arisen behind the command.

As with what commands change, each command is followed through its text: an action fails as one of
the smaller actions does that it is put together from.
-/

namespace TableShell

variable {α β : Type}

/-- Wherever an action fails, the failure names no filter. -/
def Action.NamesNoFilter (action : Action α) : Prop :=
  ∀ (s s' : Session) (failure : Failure), action s = .error failure s' →
    failure.detail? "filter" = none

namespace Failure

/-- A detail of another name is not taken for the filter. -/
lemma detail?_filter_withDetail {f : Failure} {name : String} (value : String)
    (hf : f.detail? "filter" = none) (hname : "filter" ≠ name) :
    (f.withDetail name value).detail? "filter" = none := by
  rw [detail?_withDetail, if_neg hname, hf]

/-- The failure of a command that is used wrongly names the command. -/
lemma detail?_filter_misused (c : Command) (problem : String) :
    (c.misused problem).detail? "filter" = none := rfl

/-- The failure that an error of the files is turned into has no details at all. -/
lemma detail?_filter_toFailure (e : FileError) : e.toFailure.detail? "filter" = none := by
  cases e <;> rfl

/-- A failure to read or write a list names its file. -/
lemma detail?_filter_fileFailure (path : String) (e : FileError) :
    (Pairs.fileFailure path e).detail? "filter" = none :=
  detail?_filter_withDetail path (detail?_filter_toFailure e) (by decide)

end Failure

/-- A list that cannot be saved names no filter. -/
lemma Pairs.detail?_filter_save {p : Pairs} {fs fs' : FileSystem} {failure : Failure}
    (h : p.save fs = (.error failure, fs')) : failure.detail? "filter" = none := by
  unfold save at h
  split at h
  · cases h
  · next path _ =>
    split at h
    · next e _ _ =>
      cases h
      exact Failure.detail?_filter_fileFailure path e
    · split at h
      · next e _ =>
        cases h
        exact Failure.detail?_filter_fileFailure path e
      · cases h

namespace Action

/-! ### Putting actions together -/

/-- An answer that is given at once is no failure. -/
lemma namesNoFilter_pure (a : α) : NamesNoFilter (pure a : Action α) := by
  intro s s' failure h
  cases h

/-- A failure names a filter only if it does so when it is thrown. -/
lemma namesNoFilter_throw {failure : Failure} (hfailure : failure.detail? "filter" = none) :
    NamesNoFilter (throw failure : Action α) := by
  intro s s' thrown h
  cases h
  exact hfailure

/-- Behind a failure nothing is done that could fail in another way. -/
lemma namesNoFilter_throw_bind {failure : Failure} (hfailure : failure.detail? "filter" = none)
    (f : α → Action β) : NamesNoFilter (throw failure >>= f) := by
  intro s s' thrown h
  cases h
  exact hfailure

/-- Asking for the session cannot fail. -/
lemma namesNoFilter_get : NamesNoFilter (get : Action Session) := by
  intro s s' failure h
  cases h

/-- An action of two steps fails as the first one does or as the second one does. -/
lemma namesNoFilter_bind {x : Action α} {f : α → Action β} (hx : NamesNoFilter x)
    (hf : ∀ a, NamesNoFilter (f a)) : NamesNoFilter (x >>= f) := by
  intro s s' failure h
  simp only [bind, EStateM.bind] at h
  cases hfirst : x s with
  | ok a mid =>
    rw [hfirst] at h
    exact hf a mid s' failure h
  | error e last =>
    rw [hfirst] at h
    cases h
    exact hx s s' failure hfirst

/-- What follows on asking for the session is all that can fail. -/
lemma namesNoFilter_get_bind {f : Session → Action β} (hf : ∀ s, NamesNoFilter (f s)) :
    NamesNoFilter (get >>= f) :=
  namesNoFilter_bind namesNoFilter_get hf

/-- An action that is done for every element of a list fails as it does for one of them. -/
lemma namesNoFilter_forM {f : α → Action PUnit} (hf : ∀ a, NamesNoFilter (f a)) (as : List α) :
    NamesNoFilter (as.forM f) := by
  induction as with
  | nil => exact namesNoFilter_pure _
  | cons a as ih => exact namesNoFilter_bind (hf a) fun _ => ih

/-- Answers that are gathered along a list fail as one of them does. -/
lemma namesNoFilter_mapM {f : α → Action β} (hf : ∀ a, NamesNoFilter (f a)) (as : List α) :
    NamesNoFilter (as.mapM f) := by
  induction as with
  | nil => exact namesNoFilter_pure _
  | cons a as ih =>
    rw [List.mapM_cons]
    exact namesNoFilter_bind (hf a) fun _ => namesNoFilter_bind ih fun _ => namesNoFilter_pure _

/-! ### Single steps -/

/-- A question to the files fails with an error of the files. -/
lemma namesNoFilter_inspect (question : FileSystem → Except FileError α) :
    NamesNoFilter (Session.inspect question) := by
  intro s s' failure h
  unfold Session.inspect at h
  split at h
  · cases h
  · next e _ =>
    cases h
    exact Failure.detail?_filter_toFailure e

/-- An operation on the files fails with an error of the files. -/
lemma namesNoFilter_change (operation : FileSystem → Except FileError FileSystem) :
    NamesNoFilter (Session.change operation) := by
  intro s s' failure h
  unfold Session.change at h
  split at h
  · cases h
  · next e _ =>
    cases h
    exact Failure.detail?_filter_toFailure e

/-- An operation that stops half-way fails with an error of the files as well. -/
lemma namesNoFilter_changeInPart
    (operation : FileSystem → Except FileError Unit × FileSystem) :
    NamesNoFilter (Session.changeInPart operation) := by
  intro s s' failure h
  unfold Session.changeInPart at h
  split at h
  · cases h
  · next e _ _ =>
    cases h
    exact Failure.detail?_filter_toFailure e

/-- Aliases that cannot be saved name their file. -/
lemma namesNoFilter_setAliases (aliases : Pairs) :
    NamesNoFilter (Session.setAliases aliases) := by
  intro s s' failure h
  simp only [Session.setAliases] at h
  split at h
  · cases h
  · next hsave =>
    cases h
    exact Pairs.detail?_filter_save hsave

/-- Bookmarks that cannot be saved name their file. -/
lemma namesNoFilter_setBookmarks (bookmarks : Pairs) :
    NamesNoFilter (Session.setBookmarks bookmarks) := by
  intro s s' failure h
  simp only [Session.setBookmarks] at h
  split at h
  · cases h
  · next hsave =>
    cases h
    exact Pairs.detail?_filter_save hsave

end Action

open TableShell.Action

/-! ### Files and directories -/

namespace Files

/-- A directory that cannot be entered is told by its path. -/
lemma namesNoFilter_changeDirectory (path : String) : NamesNoFilter (changeDirectory path) := by
  unfold changeDirectory
  refine namesNoFilter_get_bind fun s => namesNoFilter_get_bind fun s' => ?_
  split
  · exact namesNoFilter_throw_bind rfl _
  · refine namesNoFilter_bind (namesNoFilter_change _) fun _ => ?_
    intro s s' failure h
    cases h

/-- A home directory that is not known is a failure without details. -/
lemma namesNoFilter_home : NamesNoFilter (do
    match (← get).machine.directories.home with
    | some home => return home
    | none => throw (.notFound "home directory is unknown") : Action String) := by
  refine namesNoFilter_get_bind fun s => ?_
  split
  · exact namesNoFilter_pure _
  · exact namesNoFilter_throw rfl

/-- Going to a directory fails as a command or as the files do. -/
lemma namesNoFilter_cd (args : List String) : NamesNoFilter (cd args) := by
  have hleave : ∀ path, NamesNoFilter (do
      changeDirectory path
      return Output.nothing) :=
    fun path => namesNoFilter_bind (namesNoFilter_changeDirectory path)
      fun _ => namesNoFilter_pure _
  unfold cd
  split
  · exact namesNoFilter_bind namesNoFilter_home hleave
  · exact namesNoFilter_bind namesNoFilter_home hleave
  · refine namesNoFilter_get_bind fun s => ?_
    split
    · exact hleave _
    · exact namesNoFilter_throw_bind rfl _
  · exact hleave _
  · exact namesNoFilter_throw_bind rfl _

/-- Showing the working directory fails at most with an error of the files. -/
lemma namesNoFilter_pwd : NamesNoFilter pwd :=
  namesNoFilter_bind (namesNoFilter_inspect _) fun _ => namesNoFilter_pure _

/-- A file that cannot be read is named. -/
lemma namesNoFilter_fileLines (path : String) : NamesNoFilter (fileLines path) := by
  intro s s' failure h
  unfold fileLines at h
  split at h
  · cases h
  · next e _ =>
    cases h
    have hplain := Failure.detail?_filter_toFailure e
    exact Failure.detail?_filter_withDetail path hplain (by decide)

/-- Showing files fails for want of a path or with an error of the files. -/
lemma namesNoFilter_cat (args : List String) : NamesNoFilter (cat args) := by
  unfold cat
  split
  · exact namesNoFilter_throw_bind (Failure.detail?_filter_misused _ _) _
  · exact namesNoFilter_bind (namesNoFilter_mapM namesNoFilter_fileLines args)
      fun _ => namesNoFilter_pure _

/-- Making directories fails for want of a path or with an error of the files. -/
lemma namesNoFilter_mkdir (args : List String) : NamesNoFilter (mkdir args) := by
  unfold mkdir
  dsimp only
  split
  · exact namesNoFilter_throw_bind (Failure.detail?_filter_misused _ _) _
  · refine namesNoFilter_bind (namesNoFilter_forM (fun path => ?_) _)
      fun _ => namesNoFilter_pure _
    split
    · exact namesNoFilter_changeInPart _
    · exact namesNoFilter_change _

/-- Removing a single path fails with an error of the files, or for a directory that is not to be
removed. -/
lemma namesNoFilter_removeOne (recursive : Bool) (path : String) :
    NamesNoFilter (removeOne recursive path) := by
  unfold removeOne
  refine namesNoFilter_get_bind fun s => ?_
  split
  · dsimp only
    split
    · exact namesNoFilter_throw_bind rfl _
    · exact namesNoFilter_changeInPart _
  · exact namesNoFilter_change _

/-- Removing paths fails for want of one or as removing one of them does. -/
lemma namesNoFilter_rm (args : List String) : NamesNoFilter (rm args) := by
  unfold rm
  dsimp only
  split
  · exact namesNoFilter_throw_bind (Failure.detail?_filter_misused _ _) _
  · exact namesNoFilter_bind (namesNoFilter_forM (namesNoFilter_removeOne _) _)
      fun _ => namesNoFilter_pure _

/-- Touching files fails for want of a path or with an error of the files. -/
lemma namesNoFilter_touch (args : List String) : NamesNoFilter (touch args) := by
  unfold touch
  split
  · exact namesNoFilter_throw_bind (Failure.detail?_filter_misused _ _) _
  · exact namesNoFilter_bind (namesNoFilter_forM (fun path => namesNoFilter_change _) args)
      fun _ => namesNoFilter_pure _

end Files

/-! ### Tables -/

namespace Listing

/-- A path that cannot be listed does not exist, or its directory cannot be read. -/
lemma detail?_filter_listing {fs : FileSystem} {path : String} {failure : Failure}
    (h : listing fs path = .error failure) : failure.detail? "filter" = none := by
  unfold listing at h
  split at h
  · split at h
    · cases h
    · next e _ =>
      cases h
      exact Failure.detail?_filter_toFailure e
  · split at h
    · cases h
    · cases h
      rfl

/-- The listing of a path, as the last step of a command. -/
lemma namesNoFilter_listing (path : String) : NamesNoFilter (do
    match listing (← get).machine.files path with
    | .ok t => return Output.table t
    | .error e => throw e : Action Output) := by
  refine namesNoFilter_get_bind fun s => ?_
  split
  · exact namesNoFilter_pure _
  · next hlisting => exact namesNoFilter_throw (detail?_filter_listing hlisting)

/-- Listing a directory fails as the listing of one path does. -/
lemma namesNoFilter_list (args : List String) : NamesNoFilter (list args) := by
  unfold list
  split
  · exact namesNoFilter_bind (namesNoFilter_pure _) namesNoFilter_listing
  · exact namesNoFilter_bind (namesNoFilter_inspect _) namesNoFilter_listing

/-- Listing the processes does not fail by itself. -/
lemma namesNoFilter_processes : NamesNoFilter processes :=
  namesNoFilter_get_bind fun _ => namesNoFilter_pure _

end Listing

/-! ### Aliases and bookmarks -/

namespace Naming

/-- Setting an alias fails for its name, for its command, or because it cannot be saved. -/
lemma namesNoFilter_aliases (args : List String) : NamesNoFilter (aliases args) := by
  unfold aliases
  refine namesNoFilter_get_bind fun s => ?_
  dsimp only
  split
  · exact namesNoFilter_pure _
  · split
    · split
      · exact namesNoFilter_throw_bind (Failure.detail?_filter_misused _ _) _
      · exact namesNoFilter_bind (namesNoFilter_setAliases _) fun _ => namesNoFilter_pure _
    · split
      · exact namesNoFilter_pure _
      · exact namesNoFilter_throw rfl

/-- Dropping an alias fails if there is none, or if the others cannot be saved. -/
lemma namesNoFilter_dropAlias (name : String) : NamesNoFilter (dropAlias name) := by
  unfold dropAlias
  refine namesNoFilter_get_bind fun s => ?_
  dsimp only
  split
  · exact namesNoFilter_throw_bind rfl _
  · exact namesNoFilter_setAliases _

/-- Dropping aliases fails for want of a name or as dropping one of them does. -/
lemma namesNoFilter_unalias (args : List String) : NamesNoFilter (unalias args) := by
  unfold unalias
  split
  · exact namesNoFilter_throw_bind (Failure.detail?_filter_misused _ _) _
  · exact namesNoFilter_bind (namesNoFilter_forM namesNoFilter_dropAlias args)
      fun _ => namesNoFilter_pure _

/-- Adding a bookmark fails for what is no directory, or because it cannot be saved. -/
lemma namesNoFilter_addBookmark (name : String) (path : Option String) :
    NamesNoFilter (addBookmark name path) := by
  have hadd : ∀ target, NamesNoFilter (do
      if !(← get).machine.files.isDirectory target then
        throw (.invalidArgument s!"not a directory: {target}")
      Session.setBookmarks ((← get).shell.bookmarks.set name target) : Action Unit) := by
    intro target
    refine namesNoFilter_get_bind fun s => ?_
    split
    · exact namesNoFilter_throw_bind rfl _
    · exact namesNoFilter_get_bind fun s' => namesNoFilter_setBookmarks _
  unfold addBookmark
  split
  · exact namesNoFilter_bind (namesNoFilter_inspect _) hadd
  · exact namesNoFilter_bind (namesNoFilter_inspect _) hadd

/-- Dropping a bookmark fails if there is none, or if the others cannot be saved. -/
lemma namesNoFilter_dropBookmark (name : String) : NamesNoFilter (dropBookmark name) := by
  unfold dropBookmark
  refine namesNoFilter_get_bind fun s => ?_
  dsimp only
  split
  · exact namesNoFilter_throw_bind rfl _
  · exact namesNoFilter_setBookmarks _

/-- The command for bookmarks fails as used wrongly, or as the word that follows it does. -/
lemma namesNoFilter_bookmark (args : List String) : NamesNoFilter (bookmark args) := by
  have hlisted : NamesNoFilter (do
      return Output.lines (bookmarkLines (← get).shell.bookmarks.entries) : Action Output) :=
    namesNoFilter_get_bind fun _ => namesNoFilter_pure _
  have hdropped : ∀ name, NamesNoFilter (do
      dropBookmark name
      return Output.nothing) :=
    fun name => namesNoFilter_bind (namesNoFilter_dropBookmark name) fun _ => namesNoFilter_pure _
  have hmisused : ∀ problem, NamesNoFilter
      (throw (Command.bookmark.misused problem) : Action Output) :=
    fun problem => namesNoFilter_throw (Failure.detail?_filter_misused _ problem)
  unfold bookmark
  dsimp only
  split
  · exact hlisted
  · exact hlisted
  · exact hmisused _
  · exact namesNoFilter_bind (namesNoFilter_addBookmark _ _) fun _ => namesNoFilter_pure _
  · split
    · exact hmisused _
    · exact hdropped _
  · split
    · exact hmisused _
    · exact hdropped _
  · exact hmisused _

/-- A jump fails for an unknown bookmark or for a directory that cannot be entered. -/
lemma namesNoFilter_jump (args : List String) : NamesNoFilter (jump args) := by
  unfold jump
  split
  · exact namesNoFilter_throw (Failure.detail?_filter_misused _ _)
  · refine namesNoFilter_get_bind fun s => ?_
    split
    · exact namesNoFilter_throw rfl
    · exact namesNoFilter_bind (Files.namesNoFilter_changeDirectory _)
        fun _ => namesNoFilter_pure _

end Naming

/-! ### All commands -/

namespace Command

/-- Showing the history fails for a word that is no count. -/
lemma namesNoFilter_showHistory (args : List String) : NamesNoFilter (showHistory args) := by
  unfold showHistory
  refine namesNoFilter_get_bind fun s => ?_
  dsimp only
  split
  · exact namesNoFilter_pure _
  · split
    · exact namesNoFilter_pure _
    · exact namesNoFilter_throw (Failure.detail?_filter_misused _ _)

/-- Leaving does not fail. -/
lemma namesNoFilter_leave : NamesNoFilter leave := by
  intro s s' failure h
  cases h

/-- A command that fails names no filter. -/
theorem namesNoFilter_execute (c : Command) (args : List String) :
    NamesNoFilter (c.execute args) := by
  cases c with
  | ls => exact Listing.namesNoFilter_list args
  | dir => exact Listing.namesNoFilter_list args
  | ps => exact Listing.namesNoFilter_processes
  | cd => exact Files.namesNoFilter_cd args
  | pwd => exact Files.namesNoFilter_pwd
  | cat => exact Files.namesNoFilter_cat args
  | mkdir => exact Files.namesNoFilter_mkdir args
  | rm => exact Files.namesNoFilter_rm args
  | touch => exact Files.namesNoFilter_touch args
  | history => exact namesNoFilter_showHistory args
  | aliases => exact Naming.namesNoFilter_aliases args
  | unalias => exact Naming.namesNoFilter_unalias args
  | bookmark => exact Naming.namesNoFilter_bookmark args
  | jump => exact Naming.namesNoFilter_jump args
  | echo => exact namesNoFilter_pure _
  | clear => exact namesNoFilter_pure _
  | exit => exact namesNoFilter_leave
  | help => exact namesNoFilter_pure _

end Command

end TableShell
