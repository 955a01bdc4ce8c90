import TableShell.Proofs.Command.Effects
import TableShell.Proofs.Pairs.Changes
import TableShell.Proofs.Pairs.Saving

/-!
# Commands that change the stores

The commands for aliases and bookmarks save the list after every change, so the list that is in
memory is the one whose text stands in the file. They may still fail: a name is missing or does not
exist, or later words are at fault after earlier ones have been carried out. None of that separates
memory and file. Only a list that cannot be saved does.

Besides, the names of aliases are checked and their commands trimmed, so that all aliases stay
storable. Nothing of this kind is done for bookmarks.
-/

namespace TableShell

variable {α β : Type} {path : String} {s : Session}

/-! ### Keeping a property -/

/-- Whether an action ends without a failure that names a file, as failures to save pairs do. -/
def Session.saves (s : Session) (action : Action α) : Bool :=
  match action s with
  | .ok _ _ => true
  | .error failure _ => (failure.detail? "path").isNone

/-- An action that starts in a session keeps a property, if it can save what it has to save. -/
def Action.KeepsAt (I : Session → Prop) (s : Session) (action : Action α) : Prop :=
  s.saves action = true → I s → I (s.after action)

namespace Action

variable {I : Session → Prop}

/-- Only what an action does in the session itself matters. -/
lemma KeepsAt.congr {x y : Action α} (hy : KeepsAt I s y) (h : x s = y s) : KeepsAt I s x := by
  unfold KeepsAt Session.saves Session.after at *
  rw [h]
  exact hy

/-- An action that leaves the session as it is keeps any property. -/
lemma keepsAt_of_after_eq {action : Action α} (h : s.after action = s) : KeepsAt I s action := by
  intro _ hs
  rw [h]
  exact hs

/-- An answer that is given at once keeps any property. -/
lemma keepsAt_pure (a : α) : KeepsAt I s (pure a : Action α) :=
  keepsAt_of_after_eq rfl

/-- A failure keeps any property. -/
lemma keepsAt_throw (failure : Failure) : KeepsAt I s (throw failure : Action α) :=
  keepsAt_of_after_eq rfl

/-- Behind a failure nothing is done that could break a property. -/
lemma keepsAt_throw_bind (failure : Failure) (f : α → Action β) :
    KeepsAt I s (throw failure >>= f) :=
  keepsAt_of_after_eq rfl

/-- What follows on asking for the session starts where the question was asked. -/
lemma keepsAt_get_bind {f : Session → Action β} (h : KeepsAt I s (f s)) :
    KeepsAt I s (get >>= f) :=
  h

/-- A second action starts where the first one has ended. -/
lemma keepsAt_bind {x : Action α} {f : α → Action β} (hx : KeepsAt I s x)
    (hf : ∀ a s', KeepsAt I s' (f a)) : KeepsAt I s (x >>= f) := by
  intro hsaves hs
  unfold KeepsAt Session.saves Session.after at hx
  unfold Session.saves Session.after at *
  cases hfirst : x s with
  | ok a mid =>
    have hbind : (x >>= f) s = f a mid := by simp only [bind, EStateM.bind, hfirst]
    rw [hfirst] at hx
    rw [hbind] at hsaves ⊢
    exact hf a mid hsaves (hx rfl hs)
  | error failure last =>
    have hbind : (x >>= f) s = .error failure last := by simp only [bind, EStateM.bind, hfirst]
    rw [hfirst] at hx
    rw [hbind] at hsaves ⊢
    exact hx hsaves hs

/-- An action that keeps a property for every element keeps it along a list. -/
lemma keepsAt_forM {f : α → Action PUnit} (hf : ∀ a s, KeepsAt I s (f a)) (as : List α) :
    KeepsAt I s (as.forM f) := by
  induction as generalizing s with
  | nil => exact keepsAt_pure _
  | cons a as ih => exact keepsAt_bind (hf a s) fun _ _ => ih

/-- A question to the files keeps any property. -/
lemma keepsAt_inspect (question : FileSystem → Except FileError α) :
    KeepsAt I s (Session.inspect question) := by
  apply keepsAt_of_after_eq
  unfold Session.after Session.inspect
  cases question s.machine.files <;> rfl

end Action

open TableShell.Action
open TableShell.Pairs (IsStorable IsStorableName IsStorableValue SavedIn)

/-! ### Saving a changed list -/

namespace Session

/-- The aliases stand in their file, and all of them can be read from there. -/
structure AliasesSaved (path : String) (s : Session) : Prop where
  saved : SavedIn s.machine.files path s.shell.aliases
  storable : ∀ e ∈ s.shell.aliases.entries, IsStorable e

/-- The bookmarks stand in their file, although perhaps not all of them can be read from there. -/
def BookmarksSaved (path : String) (s : Session) : Prop :=
  SavedIn s.machine.files path s.shell.bookmarks

/-- Aliases that are set and saved are those of the file, if they are storable and the file stays
the same. -/
lemma keepsAt_setAliases {aliases : Pairs} (hpath : aliases.path = s.shell.aliases.path)
    (hstorable : s.AliasesSaved path → ∀ e ∈ aliases.entries, IsStorable e) :
    KeepsAt (AliasesSaved path) s (setAliases aliases) := by
  intro hsaves hs
  rw [hs.saved.path_eq] at hpath
  unfold saves setAliases at hsaves
  unfold after setAliases
  rcases Pairs.save_cases hpath s.machine.files with
    ⟨fs, hsave, hsaved⟩ | ⟨failure, fs, hsave, hdetail⟩
  · simp only [hsave]
    exact ⟨hsaved, hstorable hs⟩
  · simp [hsave, hdetail] at hsaves

/-- Bookmarks that are set and saved are those of the file, if the file stays the same. -/
lemma keepsAt_setBookmarks {bookmarks : Pairs}
    (hpath : bookmarks.path = s.shell.bookmarks.path) :
    KeepsAt (BookmarksSaved path) s (setBookmarks bookmarks) := by
  intro hsaves hs
  rw [hs.path_eq] at hpath
  unfold saves setBookmarks at hsaves
  unfold after setBookmarks
  rcases Pairs.save_cases hpath s.machine.files with
    ⟨fs, hsave, hsaved⟩ | ⟨failure, fs, hsave, hdetail⟩
  · simp only [hsave]
    exact hsaved
  · simp [hsave, hdetail] at hsaves

end Session

open TableShell.Session

namespace Naming

/-! ### Aliases -/

/-- A name that passes the check is storable, if it comes from the left of an equals sign and holds
no line feed. -/
lemma isStorableName_of_isAliasName {name : List Char} (hfeed : '\n' ∉ name) (hequals : '=' ∉ name)
    (h : isAliasName (Text.trimChars name) = true) : IsStorableName (Text.trimChars name) := by
  apply Pairs.isStorableName_trimChars hfeed hequals
  intro hnil
  rw [hnil] at h
  cases h

/-- Defining an alias by words without line feeds keeps the aliases saved. -/
lemma keepsAt_aliases {args : List String} (hargs : ∀ word ∈ args, '\n' ∉ word.toList) :
    KeepsAt (AliasesSaved path) s (aliases args) := by
  unfold aliases
  apply keepsAt_get_bind
  dsimp only
  split
  · exact keepsAt_pure _
  · split
    · next name command hcut =>
      -- name and command are parts of the words, which are joined by spaces
      have hjoined : '\n' ∉ (" ".intercalate args).toList := by
        rw [String.toList_intercalate]
        refine Text.notMem_intercalate (by decide) fun cs hcs => ?_
        obtain ⟨word, hword, rfl⟩ := List.mem_map.mp hcs
        exact hargs word hword
      obtain ⟨hline, hequals⟩ := Text.cutFirst_eq_some.mp hcut
      rw [hline, List.mem_append, List.mem_cons, not_or, not_or] at hjoined
      obtain ⟨hname, -, hcommand⟩ := hjoined
      split
      · exact keepsAt_throw_bind _ _
      · next hvalid =>
        have hvalid : isAliasName (Text.trimChars name) = true := by simpa using hvalid
        have hnew : IsStorable
            (.ofList (Text.trimChars name), .ofList (Text.trimChars command)) := by
          constructor
          · rw [String.toList_ofList]
            exact isStorableName_of_isAliasName hname hequals hvalid
          · rw [String.toList_ofList]
            exact Pairs.isStorableValue_trimChars hcommand
        refine keepsAt_bind (keepsAt_setAliases rfl fun hs e he => ?_) fun _ _ => keepsAt_pure _
        rcases Pairs.mem_set he with rfl | hold
        · exact hnew
        · exact hs.storable e hold
    · split
      · exact keepsAt_pure _
      · exact keepsAt_throw _

/-- An alias that is dropped is dropped from the file as well. -/
lemma keepsAt_dropAlias (name : String) (s : Session) :
    KeepsAt (AliasesSaved path) s (dropAlias name) := by
  unfold dropAlias
  apply keepsAt_get_bind
  dsimp only
  split
  · exact keepsAt_throw_bind _ _
  · exact keepsAt_setAliases rfl fun hs e he => hs.storable e (List.mem_of_mem_eraseP he)

/-- Dropping aliases keeps them saved, also where a name does not exist. -/
lemma keepsAt_unalias (args : List String) :
    KeepsAt (AliasesSaved path) s (unalias args) := by
  unfold unalias
  split
  · exact keepsAt_throw_bind _ _
  · exact keepsAt_bind (keepsAt_forM keepsAt_dropAlias args) fun _ _ => keepsAt_pure _

/-! ### Bookmarks -/

/-- A bookmark that is added is written to the file as well. -/
lemma keepsAt_addBookmark (name : String) (target : Option String) :
    KeepsAt (BookmarksSaved path) s (addBookmark name target) := by
  have hset : ∀ directory s, KeepsAt (BookmarksSaved path) s (do
      if !(← get).machine.files.isDirectory directory then
        throw (Failure.invalidArgument s!"not a directory: {directory}")
      setBookmarks ((← get).shell.bookmarks.set name directory)) := by
    intro directory s
    apply keepsAt_get_bind
    split
    · exact keepsAt_throw_bind _ _
    · exact keepsAt_get_bind (keepsAt_setBookmarks rfl)
  unfold addBookmark
  split
  · exact keepsAt_bind (keepsAt_inspect _) hset
  · exact keepsAt_bind (keepsAt_inspect _) hset

/-- A bookmark that is dropped is dropped from the file as well. -/
lemma keepsAt_dropBookmark (name : String) :
    KeepsAt (BookmarksSaved path) s (dropBookmark name) := by
  unfold dropBookmark
  apply keepsAt_get_bind
  dsimp only
  split
  · exact keepsAt_throw_bind _ _
  · exact keepsAt_setBookmarks rfl

/-- Adding and dropping bookmarks keeps them saved. -/
lemma keepsAt_bookmark (args : List String) :
    KeepsAt (BookmarksSaved path) s (bookmark args) := by
  have hdropped : ∀ name, KeepsAt (BookmarksSaved path) s (do
      dropBookmark name
      return Output.nothing) := by
    intro name
    exact keepsAt_bind (keepsAt_dropBookmark name) fun _ _ => keepsAt_pure _
  unfold bookmark
  dsimp only
  split
  · exact keepsAt_get_bind (keepsAt_pure _)
  · exact keepsAt_get_bind (keepsAt_pure _)
  · exact keepsAt_throw _
  · exact keepsAt_bind (keepsAt_addBookmark _ _) fun _ _ => keepsAt_pure _
  · split
    · exact keepsAt_throw _
    · exact hdropped _
  · split
    · exact keepsAt_throw _
    · exact hdropped _
  · exact keepsAt_throw _

end Naming

end TableShell
