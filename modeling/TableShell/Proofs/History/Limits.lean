import Mathlib.Data.List.Induction
import Mathlib.Data.List.Nodup
import TableShell.History.Store
import TableShell.Proofs.FileSystem.Writing
import TableShell.Proofs.History.Bounds
import TableShell.Proofs.History.Lines

/-!
# The bound of a history that is loaded

A history is loaded within the usual bound of 10000, and then gets the bound that is wanted. The
smaller one counts: of the entries in the file of the log the newest are kept, at most as many as
both bounds allow. A wider bound than the usual one is kept while lines are recorded, but it is lost
on what is loaded, since what the usual bound has dropped does not come back.

The table is read by adding up the counts of every command. The table of these totals is kept as a
whole if it is within both bounds, and otherwise its least used commands are missing.
-/

namespace TableShell

namespace History

/-! ### Totals -/

/-- The uses of a command in a table that may list it several times. -/
def usesOf (command : String) : List Usage → Nat
  | [] => 0
  | u :: rest => (if u.command == command then u.count else 0) + usesOf command rest

/-- The table of all commands of a table, each once, with their uses added up as far as they can be
counted. -/
def totals (usages : List Usage) : List Usage :=
  (commands usages).eraseDups.map fun command =>
    { command, count := min (usesOf command usages) maxWord }

variable {usages : List Usage} {u : Usage} {command : String}

/-- A further entry of the table adds to the uses of its own line only. -/
lemma usesOf_concat (command : String) (usages : List Usage) (u : Usage) :
    usesOf command (usages ++ [u]) =
      usesOf command usages + if u.command == command then u.count else 0 := by
  induction usages with
  | nil => simp [usesOf]
  | cons v rest ih =>
    rw [List.cons_append, usesOf, usesOf, ih, Nat.add_assoc]

/-- A line that the table does not hold has not been used. -/
lemma usesOf_eq_zero (h : command ∉ commands usages) : usesOf command usages = 0 := by
  induction usages with
  | nil => rfl
  | cons v rest ih =>
    have hv : v.command ≠ command := fun heq => h (heq ▸ List.mem_cons_self)
    have hrest := ih fun hmem => h (List.mem_cons_of_mem _ hmem)
    rw [usesOf, beq_false_of_ne hv, hrest]
    rfl

/-- Adding to the count of one command in a table that lists commands once. -/
lemma addUses_map {names : List String} (hnodup : names.Nodup) (hmem : command ∈ names)
    (counts : String → Nat) (uses : Nat) :
    addUses (names.map fun name => { command := name, count := counts name }) command uses =
      names.map fun name =>
        { command := name
          count := if command == name then min (counts name + uses) maxWord else counts name } := by
  induction names with
  | nil => cases hmem
  | cons name rest ih =>
    obtain ⟨hname, hrest⟩ := List.nodup_cons.mp hnodup
    rw [List.map_cons, List.map_cons, addUses]
    by_cases heq : name = command
    · have hothers : ∀ other ∈ rest, (command == other) = false := by
        intro other hother
        exact beq_false_of_ne fun hsame => hname (heq ▸ hsame ▸ hother)
      rw [if_pos (beq_iff_eq.mpr heq), if_pos (beq_iff_eq.mpr heq.symm)]
      congr 1
      refine List.map_congr_left fun other hother => ?_
      rw [hothers other hother]
      rfl
    · have htail := ih hrest ((List.mem_cons.mp hmem).resolve_left (Ne.symm heq))
      rw [if_neg (by simpa using heq), htail, beq_false_of_ne (Ne.symm heq)]
      rfl

/-- A name that is put at the end stays there if it is new. -/
lemma eraseDups_concat (names : List String) (name : String) :
    (names ++ [name]).eraseDups =
      if name ∈ names then names.eraseDups else names.eraseDups ++ [name] := by
  rw [List.eraseDups_append]
  by_cases hmem : name ∈ names
  · have hdropped : [name].removeAll names = [] := by simp [List.removeAll, hmem]
    rw [if_pos hmem, hdropped, List.eraseDups_nil, List.append_nil]
  · have hkept : [name].removeAll names = [name] := by simp [List.removeAll, hmem]
    rw [if_neg hmem, hkept, List.eraseDups_cons, List.filter_nil, List.eraseDups_nil]

/-- No name is left twice where repeated ones are dropped. -/
lemma nodup_eraseDups (names : List String) : names.eraseDups.Nodup := by
  induction names using List.reverseRecOn with
  | nil => exact List.nodup_nil
  | append_singleton before name ih =>
    rw [eraseDups_concat]
    split
    · exact ih
    · next hnew =>
      rw [← List.concat_eq_append]
      exact List.Nodup.concat (fun hmem => hnew (List.mem_eraseDups.mp hmem)) ih

/-- The totals list each line of the table once, in the order of its first entry. -/
lemma commands_totals (usages : List Usage) :
    commands (totals usages) = (commands usages).eraseDups := by
  unfold commands totals
  rw [List.map_map]
  exact List.map_id _

/-- One more line of a table adds to the total of its command. -/
lemma addUses_totals (hcount : u.count ≤ maxWord) :
    addUses (totals usages) u.command u.count = totals (usages ++ [u]) := by
  have hcommands : commands (usages ++ [u]) = commands usages ++ [u.command] := List.map_append
  by_cases hmem : u.command ∈ commands usages
  · unfold totals
    rw [hcommands, eraseDups_concat, if_pos hmem,
      addUses_map (nodup_eraseDups _) (List.mem_eraseDups.mpr hmem)]
    refine List.map_congr_left fun name _ => ?_
    rw [usesOf_concat]
    congr 1
    split <;> omega
  · have hnew : u.command ∉ commands (totals usages) := by
      rw [commands_totals, List.mem_eraseDups]
      exact hmem
    rw [addUses_of_notMem hnew]
    unfold totals
    rw [hcommands, eraseDups_concat, if_neg hmem, List.map_append]
    congr 1
    · refine List.map_congr_left fun name hname => ?_
      have hother : u.command ≠ name := fun heq => hmem (heq ▸ List.mem_eraseDups.mp hname)
      rw [usesOf_concat, beq_false_of_ne hother]
      rfl
    · rw [List.map_singleton, usesOf_concat, usesOf_eq_zero hmem, beq_self_eq_true, if_pos rfl,
        Nat.zero_add, Nat.min_eq_left hcount]

/-- Counting the lines of a table one after the other gives the totals of the table. -/
theorem foldl_addUses_eq_totals (h : ∀ u ∈ usages, u.count ≤ maxWord) :
    usages.foldl (fun usages u => addUses usages u.command u.count) [] = totals usages := by
  induction usages using List.reverseRecOn with
  | nil => rfl
  | append_singleton before u ih =>
    have hbefore := ih fun v hv => h v (List.mem_append_left _ hv)
    have hcount := h u (List.mem_append_right _ List.mem_cons_self)
    rw [List.foldl_append, List.foldl_cons, List.foldl_nil, hbefore, addUses_totals hcount]

/-- A count that is read from a table is one that can be held. -/
lemma count_le_of_parseUsage? {line : String} (h : parseUsage? line = some u) :
    u.count ≤ maxWord := by
  obtain ⟨⟨command, count⟩, -, h⟩ := Option.bind_eq_some_iff.mp h
  obtain ⟨n, hn, h⟩ := Option.bind_eq_some_iff.mp h
  simp only [Option.ite_none_left_eq_some] at h
  obtain rfl := Option.some.inj h.2
  exact le_maxWord_of_readWord? hn

/-! ### Histories that are loaded -/

/-- What a history holds that is read from lines and then gets a bound. -/
lemma withMaxEntries_ofLines {limit : Nat} (h : 1 ≤ limit) (entryLines usageLines : List String) :
    ((ofLines entryLines usageLines).withMaxEntries limit).entries =
        boundEntries (min limit 10000) (entryLines.filterMap parseEntry?) ∧
      ((ofLines entryLines usageLines).withMaxEntries limit).usages =
        boundUsages none limit
          (boundUsages none 10000 (totals (usageLines.filterMap parseUsage?))) := by
  have hcounts : ∀ u ∈ usageLines.filterMap parseUsage?, u.count ≤ maxWord := by
    intro u hu
    obtain ⟨line, -, hline⟩ := List.mem_filterMap.mp hu
    exact count_le_of_parseUsage? hline
  simp only [ofLines, withMaxEntries, bounded, foldl_addUses_eq_totals hcounts, Nat.max_eq_left h,
    boundEntries_boundEntries_min, and_self]

/-- Two bounds keep all totals exactly if there are no more of them than both allow. -/
lemma boundUsages_totals_eq_iff {limit first : Nat} (hlimit : 1 ≤ limit) (hfirst : 1 ≤ first)
    (usages : List Usage) :
    boundUsages none limit (boundUsages none first (totals usages)) = totals usages ↔
      (totals usages).length ≤ limit ∧ (totals usages).length ≤ first := by
  have hnodup : (commands (totals usages)).Nodup := by
    rw [commands_totals]
    exact nodup_eraseDups _
  have hkept := boundUsages_sublist none first (totals usages)
  have hfirstLength := length_boundUsages_le hfirst hnodup none
  have hlimitLength := length_boundUsages_le hlimit ((hkept.map Usage.command).nodup hnodup) none
  constructor
  · intro h
    have hsame := boundUsages_sublist none limit (boundUsages none first (totals usages))
    rw [h] at hlimitLength hsame
    exact ⟨hlimitLength, hsame.length_le.trans hfirstLength⟩
  · rintro ⟨hlimit, hfirst⟩
    rw [boundUsages_eq_self none hfirst, boundUsages_eq_self none hlimit]

end History

/-! ### Histories that are loaded from files -/

namespace HistoryStore

open History (boundEntries boundUsages entriesText totals)

/-- The entries in the file of the log, as far as its lines can be read. -/
def loggedEntries (fs : FileSystem) (files : HistoryFiles) : List HistoryEntry :=
  (fileLines fs files.log).filterMap History.parseEntry?

/-- The commands in the file of the table with their uses added up, as far as its lines can be
read. -/
def listedTotals (fs : FileSystem) (files : HistoryFiles) : List Usage :=
  totals ((fileLines fs files.table).filterMap History.parseUsage?)

/-- The entries of a history that is loaded and then gets a bound. -/
lemma entries_load_withMaxEntries {limit : Nat} (hlimit : 1 ≤ limit) (fs : FileSystem)
    (files : HistoryFiles) :
    ((load fs files).withMaxEntries limit).history.entries =
      boundEntries (min limit 10000) (loggedEntries fs files) :=
  (History.withMaxEntries_ofLines hlimit _ _).1

/-- The table of a history that is loaded and then gets a bound. -/
lemma usages_load_withMaxEntries {limit : Nat} (hlimit : 1 ≤ limit) (fs : FileSystem)
    (files : HistoryFiles) :
    ((load fs files).withMaxEntries limit).history.usages =
      boundUsages none limit (boundUsages none 10000 (listedTotals fs files)) :=
  (History.withMaxEntries_ofLines hlimit _ _).2

/-- What a history holds that is loaded and then gets a bound. It holds the newest entries of its
log within the bound and the usual one, which are those within the bound alone exactly if the bound
or the log is no larger than the usual bound. It holds all totals of its table exactly if there are
no more of them than both bounds allow. -/
theorem load_withMaxEntries {limit : Nat} (hlimit : 1 ≤ limit) (fs : FileSystem)
    (files : HistoryFiles) :
    ((load fs files).withMaxEntries limit).history.entries =
        boundEntries (min limit 10000) (loggedEntries fs files) ∧
      (((load fs files).withMaxEntries limit).history.entries =
          boundEntries limit (loggedEntries fs files) ↔
        limit ≤ 10000 ∨ (loggedEntries fs files).length ≤ 10000) ∧
      (((load fs files).withMaxEntries limit).history.usages = listedTotals fs files ↔
        (listedTotals fs files).length ≤ limit ∧ (listedTotals fs files).length ≤ 10000) := by
  rw [entries_load_withMaxEntries hlimit, usages_load_withMaxEntries hlimit]
  refine ⟨rfl, History.boundEntries_min_eq_iff, ?_⟩
  exact History.boundUsages_totals_eq_iff hlimit (by decide) _

/-- A history in which a command is counted twice, and some lines cannot be read. -/
def smallTree : FileSystem where
  entries :=
    [(["log"], { node := .file (.text "ls|1\ncd | x|-2\n \nps") }),
      (["table"], { node := .file (.text "ls|1\nps|2\nls|18446744073709551615\nnone\n") })]

/-- The files of that history. -/
def smallFiles : HistoryFiles :=
  { log := some "log", table := some "table" }

/-- In the example, the uses of a line that is listed twice are added up, and the last two of three
entries are kept. -/
theorem load_withMaxEntries_smallTree :
    ((load smallTree smallFiles).withMaxEntries 2).history.entries =
        [⟨"cd | x", -2⟩, ⟨"ps", 0⟩] ∧
      ((load smallTree smallFiles).withMaxEntries 2).history.usages =
        [⟨"ls", 18446744073709551615⟩, ⟨"ps", 2⟩] := by
  have hlogged : loggedEntries smallTree smallFiles =
      [⟨"ls", 1⟩, ⟨"cd | x", -2⟩, ⟨"ps", 0⟩] := by
    decide +kernel
  have htotals : listedTotals smallTree smallFiles =
      [⟨"ls", 18446744073709551615⟩, ⟨"ps", 2⟩] := by
    decide +kernel
  have hlimit : 1 ≤ 2 := by decide
  obtain ⟨hentries, -, husages⟩ := load_withMaxEntries hlimit smallTree smallFiles
  rw [hlogged] at hentries
  rw [htotals] at husages
  exact ⟨hentries, husages.mpr (by decide)⟩

/-- A log of one more entry than the usual bound allows. -/
def longLog : List HistoryEntry :=
  ⟨"b", 0⟩ :: List.replicate 10000 ⟨"a", 0⟩

/-- A tree in which nothing stands but the file of that log. -/
def longTree : FileSystem :=
  ({} : FileSystem).put ["log"] { node := .file (.text (entriesText longLog)) }

/-- The entries of the long log can be stored. -/
lemma isStorable_of_mem_longLog : ∀ e ∈ longLog, e.IsStorable := by
  intro e he
  rcases List.mem_cons.mp he with rfl | he
  · exact ⟨by decide, by decide⟩
  · obtain rfl := List.eq_of_mem_replicate he
    exact ⟨by decide, by decide⟩

/-- The log is too long to be read by evaluation, but it has been written. -/
lemma loggedEntries_longTree : loggedEntries longTree { log := some "log" } = longLog := by
  have hplace : ({} : FileSystem).writable "log" = .ok ["log"] := by decide +kernel
  have hwritten :
      ({} : FileSystem).writeFile "log" (.text (entriesText longLog)) = .ok longTree := by
    unfold FileSystem.writeFile
    rw [hplace]
    rfl
  unfold loggedEntries fileLines
  simp only [FileSystem.readText_of_writeFile hwritten]
  exact History.filterMap_parseEntry?_entriesText isStorable_of_mem_longLog

/-- A history with a bound wide enough for a whole log has lost its first entry. -/
theorem load_withMaxEntries_longTree :
    loggedEntries longTree { log := some "log" } = longLog ∧
      ((load longTree { log := some "log" }).withMaxEntries 10001).history.entries =
        longLog.tail ∧
      longLog.tail ≠ boundEntries 10001 longLog := by
  have hlength : longLog.length = 10001 := by
    rw [longLog, List.length_cons, List.length_replicate]
  have htail : boundEntries 10000 longLog = longLog.tail := by
    unfold boundEntries
    rw [hlength, ← List.drop_one]
  have hwhole : boundEntries 10001 longLog = longLog :=
    History.boundEntries_eq_self hlength.le
  have hlimit : 1 ≤ 10001 := by decide
  have hmin : min 10001 10000 = 10000 := by decide
  refine ⟨loggedEntries_longTree, ?_, ?_⟩
  · rw [entries_load_withMaxEntries hlimit, loggedEntries_longTree, hmin, htail]
  · rw [hwhole]
    intro heq
    have hshorter := congrArg List.length heq
    rw [List.length_tail, hlength] at hshorter
    omega

end HistoryStore

end TableShell
