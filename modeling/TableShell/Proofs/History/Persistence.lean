import TableShell.Proofs.History.Recording
import TableShell.Proofs.History.Saving

/-!
# Histories that persist

A history that starts without files and records lines is found again when its files are loaded, with
the same bound: the same entries and the same table of counts. In memory the log drops its oldest
entries while its file grows, and the table drops its least used lines while its file is written
anew; after every line the files still hold the whole log and the table as it is, and loading
drops what had been dropped.

What has to be assumed is that the files can be written every time, that nothing was there before,
and that they are two files. Otherwise an entry or the table is missing, old lines show up, or one
file destroys the other.
-/

namespace TableShell

/-- A line and the time at which it is submitted, in seconds. -/
structure Submission where
  line : String
  time : Int

namespace HistoryStore

open FileSystem (Grows)
open History (entriesText usagesText)

/-- The two files of a history. -/
def filesAt (log table : String) : HistoryFiles :=
  { log := some log, table := some table }

/-- The history that is loaded from two files, with a bound. -/
def openAt (limit : Nat) (fs : FileSystem) (log table : String) : HistoryStore :=
  (load fs (filesAt log table)).withMaxEntries limit

/-! ### Runs -/

/-- Record a line at the time of its submission. -/
def submit (s : HistoryStore) (fs : FileSystem) (x : Submission) : HistoryStore × FileSystem :=
  s.record x.line { fs with clock := x.time }

/-- Record lines one after the other. -/
def submitAll (s : HistoryStore) (fs : FileSystem) : List Submission → HistoryStore × FileSystem
  | [] => (s, fs)
  | x :: rest => (s.submit fs x).1.submitAll (s.submit fs x).2 rest

/-- The entries of the lines that are recorded. -/
def recordedEntries (xs : List Submission) : List HistoryEntry :=
  (xs.filter fun x => History.isRecorded x.line).map fun x => History.entryOf x.line x.time

/-- Whether both files are written if a line is recorded. -/
def recordSucceeds (log table : String) (s : HistoryStore) (line : String) (fs : FileSystem) :
    Bool :=
  let entryLine := History.entryLine (History.entryOf line fs.clock)
  let text := usagesText (s.history.record line fs.clock).usages
  !History.isRecorded line ||
    attemptSucceeds fs log (fun fs => fs.appendText log entryLine) &&
      attemptSucceeds (attempt fs log fun fs => fs.appendText log entryLine) table
        fun fs => fs.writeFile table (.text text)

/-- Whether both files are written for every line that is recorded. -/
def submitAllSucceeds (log table : String) (s : HistoryStore) (fs : FileSystem) :
    List Submission → Bool
  | [] => true
  | x :: rest =>
    recordSucceeds log table s x.line { fs with clock := x.time } &&
      submitAllSucceeds log table (s.submit fs x).1 (s.submit fs x).2 rest

variable {before fs : FileSystem} {log table : String} {s : HistoryStore} {x : Submission}

/-- A line that is recorded adds an entry in front. -/
lemma recordedEntries_cons_of_recorded (h : History.isRecorded x.line = true)
    (xs : List Submission) :
    recordedEntries (x :: xs) = History.entryOf x.line x.time :: recordedEntries xs := by
  simp [recordedEntries, h]

/-- A line that is not recorded adds nothing. -/
lemma recordedEntries_cons_of_passed (h : History.isRecorded x.line = false)
    (xs : List Submission) : recordedEntries (x :: xs) = recordedEntries xs := by
  simp [recordedEntries, h]

/-! ### Growth -/

/-- Writing an entry to the log lets the tree grow. -/
lemma grows_writeEntry (files : HistoryFiles) (e : HistoryEntry) (fs : FileSystem) :
    Grows fs (writeEntry files e fs) := by
  unfold writeEntry
  split
  · exact .refl fs
  · exact grows_attempt fun _ _ => FileSystem.grows_appendText

/-- Writing the table lets the tree grow. -/
lemma grows_writeUsages (files : HistoryFiles) (usages : List Usage) (fs : FileSystem) :
    Grows fs (writeUsages files usages fs) := by
  unfold writeUsages
  split
  · exact .refl fs
  · exact grows_attempt fun _ _ => FileSystem.grows_writeFile

/-- Recording a line removes nothing. -/
lemma grows_submit (s : HistoryStore) (fs : FileSystem) (x : Submission) :
    Grows fs (s.submit fs x).2 := by
  have hclock := Grows.clock fs x.time
  unfold submit record
  split
  · exact hclock.trans ((grows_writeEntry _ _ _).trans (grows_writeUsages _ _ _))
  · exact hclock

/-- Submitting lines lets the tree grow. -/
lemma grows_submitAll (s : HistoryStore) (fs : FileSystem) (xs : List Submission) :
    Grows fs (s.submitAll fs xs).2 := by
  induction xs generalizing s fs with
  | nil => exact .refl fs
  | cons x rest ih => exact (grows_submit s fs x).trans (ih _ _)

/-! ### What is kept -/

/-- Submitting a line leaves the bound as it was. -/
lemma maxEntries_submit (s : HistoryStore) (fs : FileSystem) (x : Submission) :
    (s.submit fs x).1.history.maxEntries = s.history.maxEntries := by
  unfold submit record
  split
  · unfold History.record
    rw [if_pos ‹_›]
    rfl
  · rfl

/-- Submitting lines leaves the bound as it was. -/
lemma maxEntries_submitAll (s : HistoryStore) (fs : FileSystem) (xs : List Submission) :
    (s.submitAll fs xs).1.history.maxEntries = s.history.maxEntries := by
  induction xs generalizing s fs with
  | nil => rfl
  | cons x rest ih => exact (ih _ _).trans (maxEntries_submit s fs x)

/-- A history that has recorded entries since `before`, in memory and in its files. -/
structure Persisted (before fs : FileSystem) (log table : String) (entries : List HistoryEntry)
    (s : HistoryStore) : Prop where
  files : s.files = filesAt log table
  recorded : s.history.RecordedFrom entries
  saved : FilesHold before fs log table (entriesText entries) (usagesText s.history.usages)

namespace Persisted

variable {entries : List HistoryEntry}

/-- A line that is recorded adds its entry, in memory and in the files. -/
lemma submit_recorded (h : Persisted before fs log table entries s)
    (hlimit : 1 ≤ s.history.maxEntries) (hline : History.isRecorded x.line = true)
    (hfeed : '\n' ∉ x.line.toList) (htime : InInteger64 x.time)
    (hsucceeds : recordSucceeds log table s x.line { fs with clock := x.time } = true)
    (hnew : NewFiles before (s.submit fs x).2 log table) :
    Persisted before (s.submit fs x).2 log table (entries ++ [History.entryOf x.line x.time])
      (s.submit fs x).1 := by
  have hrecorded := h.recorded.record hlimit hline hfeed htime
  simp only [recordSucceeds, hline, Bool.not_true, Bool.false_or, Bool.and_eq_true] at hsucceeds
  obtain ⟨hlog, htable⟩ := hsucceeds
  simp only [submit, record, hline, if_true, h.files, filesAt, writeEntry, writeUsages]
    at hnew ⊢
  have hsaved := (h.saved.clock x.time).write hlog rfl htable rfl hnew
  refine ⟨rfl, hrecorded, ?_⟩
  rw [History.entriesText_append]
  exact hsaved

/-- Any other line changes nothing. -/
lemma submit_passed (h : Persisted before fs log table entries s)
    (hline : History.isRecorded x.line = false) :
    Persisted before (s.submit fs x).2 log table entries (s.submit fs x).1 := by
  simp only [submit, record, hline, Bool.false_eq_true, if_false]
  exact ⟨h.files, h.recorded, h.saved.clock x.time⟩

/-- A run of lines keeps memory and files together. -/
theorem submitAll {xs : List Submission} (h : Persisted before fs log table entries s)
    (hlimit : 1 ≤ s.history.maxEntries) (hfeed : ∀ x ∈ xs, '\n' ∉ x.line.toList)
    (htime : ∀ x ∈ xs, InInteger64 x.time)
    (hsucceeds : submitAllSucceeds log table s fs xs = true)
    (hnew : NewFiles before (s.submitAll fs xs).2 log table) :
    Persisted before (s.submitAll fs xs).2 log table (entries ++ recordedEntries xs)
      (s.submitAll fs xs).1 := by
  induction xs generalizing s fs entries with
  | nil =>
    have hnone : entries ++ recordedEntries [] = entries := List.append_nil entries
    rw [hnone]
    exact h
  | cons x rest ih =>
    obtain ⟨hfeedx, hfeed⟩ := List.forall_mem_cons.mp hfeed
    obtain ⟨htimex, htime⟩ := List.forall_mem_cons.mp htime
    obtain ⟨hx, hrest⟩ := Bool.and_eq_true_iff.mp hsucceeds
    have hmax := maxEntries_submit s fs x
    -- what is known of the end of the run holds of every tree that grows into it
    have hnewx := hnew.of_grows (grows_submitAll _ _ rest)
    cases hline : History.isRecorded x.line with
    | true =>
      have hnext := h.submit_recorded hlimit hline hfeedx htimex hx hnewx
      have hlast := ih hnext (hmax ▸ hlimit) hfeed htime hrest hnew
      rw [List.append_assoc] at hlast
      rw [recordedEntries_cons_of_recorded hline]
      exact hlast
    | false =>
      rw [recordedEntries_cons_of_passed hline]
      exact ih (h.submit_passed hline) (hmax ▸ hlimit) hfeed htime hrest hnew

end Persisted

/-- Loading finds what the files of a history hold. -/
lemma openAt_eq {entries : List HistoryEntry} (h : Persisted before fs log table entries s)
    (hpos : 1 ≤ s.history.maxEntries) (hmax : s.history.maxEntries ≤ 10000)
    (hnew : NewFiles before fs log table) :
    openAt s.history.maxEntries fs log table = s := by
  obtain ⟨hlog, htable⟩ := h.saved.fileLines_eq hnew
  have hhistory := h.recorded.ofTexts_eq hpos hmax
  unfold openAt load filesAt
  simp only [hlog, htable, withMaxEntries]
  rw [← History.ofTexts, hhistory, ← filesAt, ← h.files]

/-- Before anything is recorded, an empty history is what is loaded. -/
lemma persisted_openAt {limit : Nat} (hpos : 1 ≤ limit) (hmax : limit ≤ 10000)
    (hnew : NewFiles fs fs log table) :
    Persisted fs fs log table [] (openAt limit fs log table) := by
  have hempty : Persisted fs fs log table []
      { history := { maxEntries := limit }, files := filesAt log table } :=
    ⟨rfl, .empty limit, .unwritten fun _ => rfl⟩
  have hloaded := openAt_eq hempty hpos hmax hnew
  rw [hloaded]
  exact hempty

/-- A history that starts without files and then records lines is what its files are loaded as,
if the files can be written for every line that is recorded. Its log holds the newest entries of
these lines. -/
theorem openAt_submitAll {limit : Nat} (hpos : 1 ≤ limit) (hmax : limit ≤ 10000)
    {fs fs' : FileSystem} {log table : String} {xs : List Submission} {s : HistoryStore}
    (hfeed : ∀ x ∈ xs, '\n' ∉ x.line.toList) (htime : ∀ x ∈ xs, InInteger64 x.time)
    (hrun : (openAt limit fs log table).submitAll fs xs = (s, fs'))
    (hsucceeds : submitAllSucceeds log table (openAt limit fs log table) fs xs = true)
    (hnew : NewFiles fs fs' log table) :
    openAt limit fs' log table = s ∧
      s.history.entries = History.boundEntries limit (recordedEntries xs) := by
  have hgrows := grows_submitAll (openAt limit fs log table) fs xs
  have hbound := maxEntries_submitAll (openAt limit fs log table) fs xs
  have hstart : (openAt limit fs log table).history.maxEntries = limit := Nat.max_eq_left hpos
  rw [hrun] at hgrows hbound
  rw [hstart] at hbound
  have hpersisted := persisted_openAt hpos hmax (hnew.of_grows hgrows)
  have hrecorded := hpersisted.submitAll (by rw [hstart]; exact hpos) hfeed htime hsucceeds
    (by rw [hrun]; exact hnew)
  rw [hrun, List.nil_append] at hrecorded
  have hloaded := openAt_eq hrecorded (by rw [hbound]; exact hpos) (by rw [hbound]; exact hmax) hnew
  have hnewest := hrecorded.recorded.newest
  rw [hbound] at hloaded hnewest
  exact ⟨hloaded, hnewest⟩

/-- A run in which commands hold bars, and entries and commands are dropped again. -/
def droppingRun : HistoryStore × FileSystem :=
  (openAt 2 {} "data/log" "data/table").submitAll {}
    [⟨"ls | first 1", 5⟩, ⟨"ps", 7⟩, ⟨" pwd", 8⟩, ⟨"ls | first 1 ", -9⟩, ⟨"cd |1|2", 12⟩]

/-- In particular the last command takes the place of the one that was used once. -/
theorem openAt_submitAll_droppingRun :
    openAt 2 droppingRun.2 "data/log" "data/table" = droppingRun.1 ∧
      droppingRun.1.history.entries = [⟨"ls | first 1", -9⟩, ⟨"cd |1|2", 12⟩] ∧
      droppingRun.1.history.usages = [⟨"ls | first 1", 2⟩, ⟨"cd |1|2", 1⟩] := by
  have hlog : droppingRun.2.resolve "data/log" true = .ok { live := ["data", "log"] } := by
    decide +kernel
  have htable : droppingRun.2.resolve "data/table" true = .ok { live := ["data", "table"] } := by
    decide +kernel
  have hnew : NewFiles {} droppingRun.2 "data/log" "data/table" := by
    refine ⟨fun p hp => ?_, fun p hp => ?_, fun p hp hp' => ?_⟩
    · obtain rfl := Except.ok.inj (hlog.symm.trans hp)
      rfl
    · obtain rfl := Except.ok.inj (htable.symm.trans hp)
      rfl
    · have hsame := Except.ok.inj (hlog.symm.trans (hp.trans (hp'.symm.trans htable)))
      exact absurd hsame (by decide)
  -- Only the last line drops a command.
  let before := (openAt 2 {} "data/log" "data/table").submitAll {}
    [⟨"ls | first 1", 5⟩, ⟨"ps", 7⟩, ⟨" pwd", 8⟩, ⟨"ls | first 1 ", -9⟩]
  have hlast : droppingRun.1.history = before.1.history.record "cd |1|2" 12 :=
    history_record before.1 "cd |1|2" { before.2 with clock := 12 }
  have husages : droppingRun.1.history.usages = [⟨"ls | first 1", 2⟩, ⟨"cd |1|2", 1⟩] := by
    rw [hlast, History.usages_record (by decide +kernel) (by decide +kernel)]
    decide +kernel
  refine ⟨(openAt_submitAll (by decide) (by decide) ?_ ?_ rfl (by decide +kernel) hnew).1, ?_,
    husages⟩
  · decide +kernel
  · decide +kernel
  · decide +kernel

end HistoryStore

end TableShell
