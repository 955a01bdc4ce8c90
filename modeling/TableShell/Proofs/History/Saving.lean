import TableShell.History.Store
import TableShell.Proofs.FileSystem.Writing

/-!
# The files of a history

Recording a line extends one file and writes another one anew. The two files that a history has then
are found under its two path names, and they hold what was written, whatever directories and links
the path names lead through: the tree only grows, so each path name goes on leading to the file that
was first made for it. What the files hold is not affected by what the other one is used for, as
long as they are two files.
-/

namespace TableShell.HistoryStore

open FileSystem (Grows AddsDirectories)

variable {before fs fs' : FileSystem} {path log table : String}
  {operation : FileSystem → Except FileError FileSystem}

/-! ### Attempts -/

/-- Whether an attempt makes the directories above a file and then carries out the operation. -/
def attemptSucceeds (fs : FileSystem) (path : String)
    (operation : FileSystem → Except FileError FileSystem) : Bool :=
  match fs.makeParents path with
  | (.error _, _) => false
  | (.ok (), fs) => (operation fs).isOk

/-- An attempt that succeeds makes directories and then carries out the operation. -/
lemma exists_made_of_attemptSucceeds (h : attemptSucceeds fs path operation = true) :
    ∃ made, AddsDirectories fs made ∧ operation made = .ok (attempt fs path operation) := by
  have hmade := FileSystem.addsDirectories_makeParents fs path
  unfold attemptSucceeds at h
  unfold attempt
  cases hparents : fs.makeParents path with
  | mk result made =>
    rw [hparents] at hmade h
    cases result with
    | error e => cases h
    | ok =>
      refine ⟨made, hmade, ?_⟩
      simp only at h ⊢
      cases hop : operation made with
      | error e =>
        rw [hop] at h
        cases h
      | ok fs' => rfl

/-- A tree grows by an attempt, whether or not it succeeds. -/
lemma grows_attempt (hop : ∀ fs fs', operation fs = .ok fs' → Grows fs fs') :
    Grows fs (attempt fs path operation) := by
  have hmade := (FileSystem.addsDirectories_makeParents fs path).grows
  unfold attempt
  split
  · next heq =>
    rw [heq] at hmade
    exact hmade
  · next heq =>
    rw [heq] at hmade
    split
    · exact hmade.trans (hop _ _ ‹_›)
    · exact hmade

/-! ### Two files -/

/-- Two path names lead to two files, if anywhere, and nothing stood there before. If the tree has
grown since, this says that neither path name led anywhere: it would still lead there. -/
structure NewFiles (before after : FileSystem) (log table : String) : Prop where
  log_new : ∀ p, after.resolve log true = .ok p → before.nodeAt? p = none
  table_new : ∀ p, after.resolve table true = .ok p → before.nodeAt? p = none
  apart : ∀ p, after.resolve log true = .ok p → after.resolve table true ≠ .ok p

/-- Files that are new for a tree are new for every tree it has grown from. -/
lemma NewFiles.of_grows (h : NewFiles before fs' log table) (hgrows : Grows fs fs') :
    NewFiles before fs log table where
  log_new p hp := h.log_new p (hgrows.resolve hp)
  table_new p hp := h.table_new p (hgrows.resolve hp)
  apart p hp hp' := h.apart p (hgrows.resolve hp) (hgrows.resolve hp')

/-- What two files hold: nothing as long as nothing has been written since `before`. -/
inductive FilesHold (before fs : FileSystem) (log table : String) : String → String → Prop where
  | unwritten (nodes : ∀ loc, fs.node? loc = before.node? loc) :
      FilesHold before fs log table "" ""
  | written {l t : Location} {logText tableText : String}
      (log_leads : fs.resolve log true = .ok { live := l })
      (table_leads : fs.resolve table true = .ok { live := t })
      (log_holds : fs.node? l = some (.file (.text logText)))
      (table_holds : fs.node? t = some (.file (.text tableText))) :
      FilesHold before fs log table logText tableText

namespace FilesHold

variable {logText tableText : String}

/-- The time of the tree does not matter. -/
lemma clock (h : FilesHold before fs log table logText tableText) (time : Int) :
    FilesHold before { fs with clock := time } log table logText tableText := by
  have hgrows := Grows.clock fs time
  cases h with
  | unwritten nodes => exact .unwritten nodes
  | written hlog htable hlogText htableText =>
    exact .written (hgrows.resolve hlog) (hgrows.resolve htable) hlogText htableText

/-- What the first file held when it is opened again: the path name still leads to it. -/
lemma eq_logText (h : FilesHold before fs log table logText tableText) {made : FileSystem}
    {l : Location} {old : Contents} (hadd : AddsDirectories fs made) (hgrows : Grows made fs')
    (hleads : fs'.resolve log true = .ok { live := l }) (hnew : before.node? l = none)
    (hold : made.node? l = none ∧ old = .text "" ∨ made.node? l = some (.file old)) :
    old = .text logText := by
  cases h with
  | unwritten nodes =>
    rcases hold with ⟨-, hempty⟩ | hfile
    · exact hempty
    · rw [hadd.node_file, nodes, hnew] at hfile
      cases hfile
  | @written l' _ _ _ hlog htable hlogText htableText =>
    have hsame : ({ live := l' } : Place) = { live := l } :=
      Except.ok.inj ((hadd.grows.trans hgrows).resolve hlog ▸ hleads)
    obtain rfl : l' = l := congrArg Place.live hsame
    have hstill := hadd.node_file.mpr hlogText
    rcases hold with ⟨hnone, -⟩ | hfile
    · rw [hnone] at hstill
      cases hstill
    · rw [hfile] at hstill
      exact Node.file.inj (Option.some.inj hstill)

/-- Extending the first file and writing the second one anew. -/
theorem write (h : FilesHold before fs log table logText tableText) {line newTable : String}
    (hlog : attemptSucceeds fs log (fun fs => fs.appendText log line) = true)
    (hlogged : fs' = attempt fs log fun fs => fs.appendText log line)
    (htable : attemptSucceeds fs' table (fun fs => fs.writeFile table (.text newTable)) = true)
    {saved : FileSystem}
    (hsaved : saved = attempt fs' table fun fs => fs.writeFile table (.text newTable))
    (hnew : NewFiles before saved log table) :
    FilesHold before saved log table (logText ++ line) newTable := by
  obtain ⟨madeLog, haddLog, happend⟩ := exists_made_of_attemptSucceeds hlog
  obtain ⟨madeTable, haddTable, hwrite⟩ := exists_made_of_attemptSucceeds htable
  rw [← hlogged] at happend
  rw [← hsaved] at hwrite
  have hgrowsLog := FileSystem.grows_appendText happend
  have hgrowsTable := FileSystem.grows_writeFile hwrite
  have hgrows : Grows fs' saved := haddTable.grows.trans hgrowsTable
  obtain ⟨l, old, hl, hold, hput⟩ := FileSystem.appendText_cases happend
  obtain ⟨t, ht, hput'⟩ := FileSystem.writeFile_cases hwrite
  have hl₀ : l ≠ [] := (FileSystem.atMostFile_of_writable hl).ne_root
  have ht₀ : t ≠ [] := (FileSystem.atMostFile_of_writable ht).ne_root
  have hlineLog : fs'.node? l = some (.file (old.append line)) := by
    rw [hput, FileSystem.node?_put hl₀, if_pos rfl]
  have hlineTable : saved.node? t = some (.file (.text newTable)) := by
    rw [hput', FileSystem.node?_put ht₀, if_pos rfl]
  have hleadsLog : saved.resolve log true = .ok { live := l } := by
    obtain ⟨n, hn, hkind⟩ := hgrows.keeps _ _ hlineLog
    obtain ⟨contents, rfl⟩ := Node.emptied_eq_file.mp hkind
    exact FileSystem.resolve_of_writable hl (hgrowsLog.trans hgrows) hn
  have hleadsTable : saved.resolve table true = .ok { live := t } :=
    FileSystem.resolve_of_writable ht hgrowsTable hlineTable
  -- the files are told apart in the last tree, where both path names lead somewhere
  have hapart : l ≠ t := fun heq => hnew.apart _ hleadsLog (heq ▸ hleadsTable)
  have hkept : saved.node? l = some (.file (old.append line)) := by
    rw [hput', FileSystem.node?_put ht₀, if_neg hapart]
    exact haddTable.node_file.mpr hlineLog
  have htext : old = .text logText :=
    h.eq_logText haddLog (hgrowsLog.trans hgrows) hleadsLog (hnew.log_new _ hleadsLog) hold
  rw [htext] at hkept
  exact .written hleadsLog hleadsTable hkept hlineTable

/-- The lines of a file are read through every path that leads to it. -/
lemma fileLines_of_leads {l : Location} {text : String}
    (hleads : fs.resolve path true = .ok { live := l })
    (hholds : fs.node? l = some (.file (.text text))) :
    fileLines fs (some path) = Text.lines text := by
  unfold fileLines
  simp only [FileSystem.readText_of_resolve hleads hholds]

/-- Where there is no file yet, no lines are read. -/
lemma fileLines_of_new (h : ∀ p, fs.resolve path true = .ok p → fs.nodeAt? p = none) :
    fileLines fs (some path) = [] := by
  obtain ⟨e, he⟩ := FileSystem.exists_readText_eq_error h
  unfold fileLines
  simp only [he]

/-- The lines that are loaded are those of what the two files hold. -/
theorem fileLines_eq (h : FilesHold before fs log table logText tableText)
    (hnew : NewFiles before fs log table) :
    fileLines fs (some log) = Text.lines logText ∧
      fileLines fs (some table) = Text.lines tableText := by
  cases h with
  | unwritten nodes =>
    have hnode : ∀ p, fs.nodeAt? p = before.nodeAt? p := fun p => by
      simp only [FileSystem.nodeAt?, nodes]
    have hlog := fileLines_of_new fun p hp => (hnode p).trans (hnew.log_new p hp)
    have htable := fileLines_of_new fun p hp => (hnode p).trans (hnew.table_new p hp)
    exact ⟨hlog, htable⟩
  | written hlog htable hlogText htableText =>
    exact ⟨fileLines_of_leads hlog hlogText, fileLines_of_leads htable htableText⟩

end FilesHold

end TableShell.HistoryStore
