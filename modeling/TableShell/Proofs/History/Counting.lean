import Mathlib.Data.List.DropRight
import TableShell.Proofs.History.Bounds

/-!
# What recording a line changes

Recording a line adds its entry to the log and counts one more use of its command. The table is
brought within its bound twice, before the command is counted and afterwards. The first time nothing
is dropped, since every history that can be reached is within its bound already; this is what
`WithinBound` keeps track of. The second time at most one command is too many. It is new, and it
stays; so one of the others goes, the one of the least count that was seen first.

`CountsUse` says what becomes of a table, by the three cases that there are.
-/

namespace TableShell

namespace History

/-! ### One more use -/

/-- How one more use of a command changes a table of at most `limit` commands. -/
inductive CountsUse (limit : Nat) (command : String) : List Usage → List Usage → Prop where
  /-- The command is counted already; its count stops at the largest number. -/
  | again (before after : List Usage) (count : Nat) :
      CountsUse limit command (before ++ ⟨command, count⟩ :: after)
        (before ++ ⟨command, min (count + 1) maxWord⟩ :: after)
  /-- The command is new, and there is room for it. -/
  | first (usages : List Usage) (isNew : command ∉ commands usages)
      (room : usages.length < limit) :
      CountsUse limit command usages (usages ++ [⟨command, 1⟩])
  /-- The command is new and takes the place of another one, of those with the least count the one
  that was seen first. -/
  | replacing (before after : List Usage) (least : Usage)
      (isNew : command ∉ commands (before ++ least :: after))
      (full : (before ++ least :: after).length = limit)
      (earlier : ∀ u ∈ before, least.count < u.count)
      (later : ∀ u ∈ after, least.count ≤ u.count) :
      CountsUse limit command (before ++ least :: after) (before ++ after ++ [⟨command, 1⟩])

variable {limit : Nat} {command : String} {usages : List Usage}

/-- A command that is in a table is counted where it stands. -/
lemma exists_addUses_of_mem (h : command ∈ commands usages) (uses : Nat) :
    ∃ before count after, usages = before ++ ⟨command, count⟩ :: after ∧
      addUses usages command uses = before ++ ⟨command, min (count + uses) maxWord⟩ :: after := by
  induction usages with
  | nil => cases h
  | cons u rest ih =>
    rw [addUses]
    by_cases hu : u.command = command
    · subst hu
      exact ⟨[], u.count, rest, rfl, by simp⟩
    · obtain ⟨before, count, after, rfl, hadd⟩ :=
        ih ((List.mem_cons.mp h).resolve_left (Ne.symm hu))
      refine ⟨u :: before, count, after, rfl, ?_⟩
      rw [beq_false_of_ne hu, if_neg Bool.false_ne_true, hadd, List.cons_append]

/-- With a new command behind a table, the command that is dropped is the one of the least count
that was seen first. -/
lemma exists_dropLeastUsed_concat (hne : usages ≠ []) (new : Usage)
    (hnew : new.command ∉ commands usages) :
    ∃ before least after, usages = before ++ least :: after ∧
      (∀ u ∈ before, least.count < u.count) ∧ (∀ u ∈ after, least.count ≤ u.count) ∧
      dropLeastUsed (some new.command) (usages ++ [new]) = before ++ after ++ [new] := by
  have hother : ∀ u ∈ usages, (some u.command != some new.command) = true := by
    intro u hu
    exact bne_iff_ne.mpr fun heq => hnew (Option.some.inj heq ▸ List.mem_map_of_mem hu)
  have hothers : (usages ++ [new]).filter (fun u => some u.command != some new.command) =
      usages := by
    rw [List.filter_append, List.filter_eq_self.mpr hother, List.filter_singleton,
      bne_self_eq_false, cond_false, List.append_nil]
  obtain ⟨count, hcount⟩ : ∃ count, (usages.map Usage.count).min? = some count :=
    Option.isSome_iff_exists.mp (List.isSome_min?_of_ne_nil (by simpa using hne))
  obtain ⟨hmem, hleast⟩ := List.min?_eq_some_iff.mp hcount
  obtain ⟨u, hu, hucount⟩ := List.mem_map.mp hmem
  have hpicked : (some u.command != some new.command && u.count == count) = true := by
    rw [hother u hu, hucount, beq_self_eq_true, Bool.and_self]
  obtain ⟨least, before, after, hbefore, hpick, hsplit, herase⟩ :=
    List.exists_of_eraseP (p := fun v => some v.command != some new.command && v.count == count)
      hu hpicked
  have hfound := List.eraseP_append_left
    (p := fun v => some v.command != some new.command && v.count == count) hpicked [new] hu
  have hleastCount : least.count = count := by
    simp only [Bool.and_eq_true, beq_iff_eq] at hpick
    exact hpick.2
  subst hsplit
  refine ⟨before, least, after, rfl, fun v hv => ?_, fun v hv => ?_, ?_⟩
  · have hmem := List.mem_append_left (least :: after) hv
    have hle := hleast v.count (List.mem_map_of_mem hmem)
    have hne := hbefore v hv
    rw [hother v hmem, Bool.true_and, beq_iff_eq] at hne
    omega
  · have hmem := List.mem_append_right before (List.mem_cons_of_mem least hv)
    have hle := hleast v.count (List.mem_map_of_mem hmem)
    omega
  · unfold dropLeastUsed leastCount?
    simp only [hothers, hcount]
    rw [hfound, herase]

/-- One more use of a command in a table within its bound. -/
theorem countsUse_boundUsages (hlimit : 1 ≤ limit) (hlength : usages.length ≤ limit)
    (command : String) :
    CountsUse limit command usages
      (boundUsages (some command) limit (addUses usages command 1)) := by
  by_cases hmem : command ∈ commands usages
  · obtain ⟨before, count, after, rfl, hadd⟩ := exists_addUses_of_mem hmem 1
    have hkept : (before ++ ⟨command, min (count + 1) maxWord⟩ :: after).length ≤ limit := by
      simpa using hlength
    rw [hadd, boundUsages_eq_self _ hkept]
    exact .again before after count
  · rw [addUses_of_notMem hmem]
    rcases Nat.lt_or_eq_of_le hlength with hroom | hfull
    · have hkept : (usages ++ [({ command, count := 1 } : Usage)]).length ≤ limit := by
        rw [List.length_append]
        exact hroom
      rw [boundUsages_eq_self _ hkept]
      exact .first usages hmem hroom
    · have hne : usages ≠ [] := List.ne_nil_of_length_pos (hfull ▸ hlimit)
      obtain ⟨before, least, after, hsplit, hearlier, hlater, hdrop⟩ :=
        exists_dropLeastUsed_concat hne ⟨command, 1⟩ hmem
      -- One command is too many.
      have honce : limit + 1 - limit = 1 := Nat.add_sub_cancel_left limit 1
      rw [boundUsages_eq_dropLeastUsedTimes, List.length_append, List.length_singleton, hfull,
        honce, dropLeastUsedTimes, dropLeastUsedTimes, hdrop]
      subst hsplit
      exact .replacing before after least hmem hfull hearlier hlater

namespace CountsUse

variable {usages' : List Usage}

/-- The command itself is in the table afterwards. -/
lemma mem_commands (h : CountsUse limit command usages usages') :
    command ∈ commands usages' := by
  cases h <;> simp [commands]

end CountsUse

/-- The count of the command grows by one, as far as it can be counted. -/
lemma countOf_eq_of_countsUse {h h' : History} (hnodup : (commands h.usages).Nodup)
    (hcounts : CountsUse limit command h.usages h'.usages) :
    h'.countOf command = min (h.countOf command + 1) maxWord := by
  unfold countOf
  generalize h.usages = usages at *
  generalize h'.usages = usages' at *
  have habsent : ∀ {others : List Usage}, command ∉ commands others →
      others.find? (fun u => u.command == command) = none := by
    intro others hothers
    refine List.find?_eq_none.mpr fun u hu => ?_
    rw [beq_iff_eq]
    rintro rfl
    exact hothers (List.mem_map_of_mem hu)
  cases hcounts with
  | again before after count =>
    have hbefore : command ∉ commands before := by
      intro hmem
      rw [commands, List.map_append, List.nodup_append] at hnodup
      exact hnodup.2.2 _ hmem _ List.mem_cons_self rfl
    simp [List.find?_append, habsent hbefore]
  | first _ isNew room =>
    simp [List.find?_append, habsent isNew, maxWord]
  | replacing before after least isNew full earlier later =>
    have hothers : command ∉ commands (before ++ after) := by
      simp only [commands, List.map_append, List.map_cons, List.mem_append, List.mem_cons,
        not_or] at isNew ⊢
      exact ⟨isNew.1, isNew.2.2⟩
    rw [habsent isNew, List.find?_append, habsent hothers]
    simp [maxWord]

/-! ### Histories within their bounds -/

/-- A history whose log and table are within its bound, and whose table lists no command twice. -/
structure WithinBound (h : History) : Prop where
  one_le : 1 ≤ h.maxEntries
  entries_le : h.entries.length ≤ h.maxEntries
  usages_le : h.usages.length ≤ h.maxEntries
  nodup : (commands h.usages).Nodup

/-- A history without lines is within its bound. -/
lemma withinBound_empty : WithinBound {} :=
  ⟨by decide, by decide, by decide, by simp [commands]⟩

/-- A history is within its bound once it has been brought there. -/
lemma withinBound_bounded {h : History} (hpos : 1 ≤ h.maxEntries)
    (hnodup : (commands h.usages).Nodup) : WithinBound h.bounded where
  one_le := hpos
  entries_le := (length_boundEntries _ _).trans_le (Nat.min_le_left _ _)
  usages_le := length_boundUsages_le hpos hnodup none
  nodup := ((boundUsages_sublist none _ _).map _).nodup hnodup

/-- A history that is read from lines is within its bound. -/
lemma withinBound_ofLines (entryLines usageLines : List String) :
    WithinBound (ofLines entryLines usageLines) := by
  have hpos : 1 ≤ 10000 := by decide
  have hstart : (commands []).Nodup := by simp [commands]
  refine withinBound_bounded hpos ?_
  exact List.foldlRecOn (motive := fun usages => (commands usages).Nodup) _ _ hstart
    fun usages h u _ => nodup_commands_addUses h u.command u.count

namespace WithinBound

variable {h : History} {line : String} {now : Int}

/-- Another bound brings the history within that bound. -/
lemma withMaxEntries (hwithin : WithinBound h) (limit : Nat) :
    WithinBound (h.withMaxEntries limit) :=
  withinBound_bounded (Nat.le_max_right _ _) hwithin.nodup

/-- Recording a line keeps a history within its bound. -/
lemma record (hwithin : WithinBound h) (line : String) (now : Int) :
    WithinBound (h.record line now) := by
  cases hline : isRecorded line with
  | false =>
    unfold History.record
    rw [hline]
    exact hwithin
  | true =>
    have hnodup := nodup_commands_addUses hwithin.nodup (Text.trimEnd line) 1
    have hsublist := boundUsages_sublist (some (Text.trimEnd line)) h.maxEntries
      (addUses h.usages (Text.trimEnd line) 1)
    rw [record_eq hwithin.usages_le hline]
    constructor
    case one_le => exact hwithin.one_le
    case entries_le => exact (length_boundEntries _ _).trans_le (Nat.min_le_left _ _)
    case usages_le => exact length_boundUsages_le hwithin.one_le hnodup _
    case nodup => exact (hsublist.map _).nodup hnodup

end WithinBound

end History

/-! ### Histories that can be reached -/

namespace HistoryStore

open History (CountsUse WithinBound commands)

/-- The histories that can be reached: kept in memory only, or loaded from files, and from then on
given other bounds and recorded into, whether or not the files can be written. -/
inductive Reachable : HistoryStore → Prop where
  | inMemory : Reachable {}
  | loaded (fs : FileSystem) (files : HistoryFiles) : Reachable (load fs files)
  | bounded {s : HistoryStore} (limit : Nat) (h : Reachable s) : Reachable (s.withMaxEntries limit)
  | recorded {s : HistoryStore} (line : String) (fs : FileSystem) (h : Reachable s) :
      Reachable (s.record line fs).1

/-- Every history that can be reached is within its bound. -/
theorem Reachable.withinBound {s : HistoryStore} (h : Reachable s) : WithinBound s.history := by
  induction h with
  | inMemory => exact History.withinBound_empty
  | loaded fs files => exact History.withinBound_ofLines _ _
  | bounded limit _ ih => exact ih.withMaxEntries limit
  | recorded line fs _ ih =>
    rw [history_record]
    exact ih.record line fs.clock

/-- What recording a line changes. A history that can be reached is within its bound, and lists no
command twice. A line that is blank or begins with a space changes nothing, neither in memory nor in
the files. Of any other line the log takes up the command, which is the line without the blanks at
its end, and keeps as many of its newest entries as the bound allows. The count of the command grows
by one, and nothing else becomes of the table than `CountsUse` says. -/
theorem record_changes {s : HistoryStore} (h : Reachable s) (line : String) (fs : FileSystem) :
    let limit := s.history.maxEntries
    let command := Text.trimEnd line
    let entry : HistoryEntry := { command, timestamp := fs.clock }
    let after := (s.record line fs).1.history
    WithinBound s.history ∧
      (Text.isBlankText line = true ∨ line.toList.head? = some ' ' → s.record line fs = (s, fs)) ∧
      (Text.isBlankText line = false ∧ line.toList.head? ≠ some ' ' →
        after.maxEntries = limit ∧
          after.entries = (s.history.entries ++ [entry]).rtake limit ∧
          command ∈ commands after.usages ∧
          after.countOf command = min (s.history.countOf command + 1) maxWord ∧
          CountsUse limit command s.history.usages after.usages) := by
  intro limit command entry after
  have hwithin := h.withinBound
  refine ⟨hwithin, ?_, ?_⟩
  · intro hpassed
    have hline : History.isRecorded line = false := by
      rcases hpassed with hblank | hspace
      · simp [History.isRecorded, hblank]
      · simp [History.isRecorded, hspace]
    unfold record
    rw [hline, if_neg Bool.false_ne_true]
  · rintro ⟨hblank, hspace⟩
    have hline : History.isRecorded line = true := by
      simp [History.isRecorded, hblank, hspace]
    have hafter : after = _ :=
      (history_record s line fs).trans (History.record_eq hwithin.usages_le hline)
    have hcounts : CountsUse limit command s.history.usages after.usages := by
      rw [hafter]
      exact History.countsUse_boundUsages hwithin.one_le hwithin.usages_le command
    have hcount := History.countOf_eq_of_countsUse hwithin.nodup hcounts
    refine ⟨by rw [hafter], ?_, hcounts.mem_commands, hcount, hcounts⟩
    rw [hafter]
    rfl

/-- A history of at most two entries into which three lines have been recorded. -/
def threeLines : HistoryStore :=
  (((({} : HistoryStore).withMaxEntries 2).record "cd" {}).1.record "ls" {}).1.record "ls " {} |>.1

/-- In particular a new command takes the place of the one that was used once, and an entry that of
the oldest one. -/
theorem record_changes_threeLines :
    Reachable threeLines ∧ threeLines.history.usages = [⟨"cd", 1⟩, ⟨"ls", 2⟩] ∧
      Text.isBlankText "pwd\t" = false ∧ "pwd\t".toList.head? ≠ some ' ' ∧
      (threeLines.record "pwd\t" {}).1.history.entries = [⟨"ls", 0⟩, ⟨"pwd", 0⟩] ∧
      CountsUse 2 "pwd" threeLines.history.usages [⟨"ls", 2⟩, ⟨"pwd", 1⟩] := by
  have hreachable : Reachable threeLines :=
    .recorded "ls " {} (.recorded "ls" {} (.recorded "cd" {} (.bounded 2 .inMemory)))
  have hblank : Text.isBlankText "pwd\t" = false := by decide +kernel
  have hspace : "pwd\t".toList.head? ≠ some ' ' := by decide +kernel
  obtain ⟨-, -, hrecorded⟩ := record_changes hreachable "pwd\t" {}
  obtain ⟨-, hentries, -, -, hcounts⟩ := hrecorded ⟨hblank, hspace⟩
  have hshown : (threeLines.record "pwd\t" {}).1.history.entries = [⟨"ls", 0⟩, ⟨"pwd", 0⟩] := by
    refine hentries.trans ?_
    decide +kernel
  have hwithin : threeLines.history.usages.length ≤ threeLines.history.maxEntries := by
    decide +kernel
  have hafter : (threeLines.record "pwd\t" {}).1.history.usages = [⟨"ls", 2⟩, ⟨"pwd", 1⟩] := by
    rw [history_record, History.usages_record hwithin (by decide +kernel)]
    decide +kernel
  have hcommand : Text.trimEnd "pwd\t" = "pwd" := by decide +kernel
  rw [hafter, hcommand] at hcounts
  exact ⟨hreachable, by decide +kernel, hblank, hspace, hshown, hcounts⟩

end HistoryStore

end TableShell
