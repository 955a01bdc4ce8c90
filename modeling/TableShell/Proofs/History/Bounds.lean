import Mathlib.Data.List.Basic
import Mathlib.Tactic.Common
import TableShell.History.Store
import TableShell.Proofs.History.Eviction

/-!
# The bounds of a history

A log keeps its newest entries and a table of counts its most used lines. Bounding a log once more
gives what bounding it once gives, with the smaller bound, and it does not matter whether a log was
bounded before an entry is added. A table in which every command stands once can always be brought
within its bound: there is a command to drop other than the one that has to stay. Before a line is
recorded nothing has to be dropped from a table that is within its bound.
-/

namespace TableShell.History

/-! ### The log -/

/-- The log has as many entries as before, or as many as the bound allows. -/
lemma length_boundEntries (limit : Nat) (entries : List HistoryEntry) :
    (boundEntries limit entries).length = min limit entries.length := by
  unfold boundEntries
  rw [List.length_drop]
  omega

/-- Nothing is dropped from a log within its bound. -/
lemma boundEntries_eq_self {limit : Nat} {entries : List HistoryEntry}
    (h : entries.length ≤ limit) : boundEntries limit entries = entries := by
  unfold boundEntries
  rw [Nat.sub_eq_zero_of_le h, List.drop_zero]

/-- Two bounds keep what the smaller one keeps. -/
lemma boundEntries_boundEntries_min (limit first : Nat) (entries : List HistoryEntry) :
    boundEntries limit (boundEntries first entries) = boundEntries (min limit first) entries := by
  unfold boundEntries
  rw [List.drop_drop, List.length_drop]
  congr 1
  omega

/-- The smaller bound counts. -/
lemma boundEntries_boundEntries {limit wider : Nat} (h : limit ≤ wider)
    (entries : List HistoryEntry) :
    boundEntries limit (boundEntries wider entries) = boundEntries limit entries := by
  rw [boundEntries_boundEntries_min, Nat.min_eq_left h]

/-- Two bounds keep as much as one of them exactly if the other one is wide enough. -/
lemma boundEntries_min_eq_iff {limit first : Nat} {entries : List HistoryEntry} :
    boundEntries (min limit first) entries = boundEntries limit entries ↔
      limit ≤ first ∨ entries.length ≤ first := by
  constructor
  · intro h
    have hlength := congrArg List.length h
    rw [length_boundEntries, length_boundEntries] at hlength
    omega
  · intro h
    have hdropped : entries.length - min limit first = entries.length - limit := by omega
    unfold boundEntries
    rw [hdropped]

/-- Entries that are dropped earlier than they have to be do not matter. -/
lemma boundEntries_append (limit : Nat) (entries : List HistoryEntry) (e : HistoryEntry) :
    boundEntries limit (boundEntries limit entries ++ [e]) =
      boundEntries limit (entries ++ [e]) := by
  unfold boundEntries
  have hlength : entries.length - limit ≤ entries.length := Nat.sub_le _ _
  rw [← List.drop_append_of_le_length hlength, List.drop_drop, List.length_drop]
  congr 1
  simp only [List.length_append, List.length_singleton]
  omega

/-! ### Counting -/

/-- The commands of a table. -/
def commands (usages : List Usage) : List String :=
  usages.map Usage.command

/-- A command that is not in a table comes last. -/
lemma addUses_of_notMem {usages : List Usage} {command : String} (h : command ∉ commands usages)
    (uses : Nat) : addUses usages command uses = usages ++ [{ command, count := uses }] := by
  induction usages with
  | nil => rfl
  | cons u rest ih =>
    have hne : u.command ≠ command := fun hu => h (hu ▸ List.mem_cons_self)
    have hrest := ih fun hmem => h (List.mem_cons_of_mem _ hmem)
    rw [addUses, beq_false_of_ne hne, hrest]
    rfl

/-- A command that is in a table stays where it is. -/
lemma commands_addUses_of_mem {usages : List Usage} {command : String}
    (h : command ∈ commands usages) (uses : Nat) :
    commands (addUses usages command uses) = commands usages := by
  induction usages with
  | nil => cases h
  | cons u rest ih =>
    rw [addUses]
    by_cases hu : u.command = command
    · rw [hu, beq_self_eq_true, if_pos rfl]
      simp only [commands, List.map_cons, hu]
    · have hrest := ih ((List.mem_cons.mp h).resolve_left (Ne.symm hu))
      rw [beq_false_of_ne hu, if_neg Bool.false_ne_true]
      simp only [commands, List.map_cons] at hrest ⊢
      rw [hrest]

/-- Counting a command does not make it stand twice. -/
lemma nodup_commands_addUses {usages : List Usage} (h : (commands usages).Nodup)
    (command : String) (uses : Nat) : (commands (addUses usages command uses)).Nodup := by
  by_cases hmem : command ∈ commands usages
  · rw [commands_addUses_of_mem hmem]
    exact h
  · rw [addUses_of_notMem hmem, commands, List.map_append, List.nodup_append]
    refine ⟨h, by simp, fun a ha b hb hab => hmem ?_⟩
    rw [hab, List.mem_singleton.mp hb] at ha
    exact ha

/-- What holds of the counts of a table and of a command that is counted holds afterwards. -/
lemma forall_mem_addUses {p : Usage → Prop} {usages : List Usage} {command : String} {uses : Nat}
    (hnew : p { command, count := uses })
    (hmore : ∀ u ∈ usages, u.command = command →
      p { u with count := min (u.count + uses) maxWord })
    (h : ∀ u ∈ usages, p u) : ∀ u ∈ addUses usages command uses, p u := by
  induction usages with
  | nil => exact List.forall_mem_singleton.mpr hnew
  | cons u rest ih =>
    obtain ⟨hu, hrest⟩ := List.forall_mem_cons.mp h
    rw [addUses]
    split
    · next heq =>
      exact List.forall_mem_cons.mpr ⟨hmore u List.mem_cons_self (beq_iff_eq.mp heq), hrest⟩
    · have htail := ih (fun v hv => hmore v (List.mem_cons_of_mem _ hv)) hrest
      exact List.forall_mem_cons.mpr ⟨hu, htail⟩

/-- Counting the lines of a table again gives the table. -/
lemma foldl_addUses {before usages : List Usage} (h : (commands (before ++ usages)).Nodup) :
    usages.foldl (fun usages u => addUses usages u.command u.count) before = before ++ usages := by
  induction usages generalizing before with
  | nil => rw [List.foldl_nil, List.append_nil]
  | cons u usages ih =>
    have hnew : u.command ∉ commands before := by
      intro hmem
      rw [commands, List.map_append, List.nodup_append] at h
      exact h.2.2 _ hmem _ List.mem_cons_self rfl
    rw [List.append_cons] at h ⊢
    rw [List.foldl_cons, addUses_of_notMem hnew]
    exact ih h

/-! ### The bound of a table -/

/-- Dropping a line leaves the others in their order. -/
lemma dropLeastUsed_sublist (kept : Option String) (usages : List Usage) :
    (dropLeastUsed kept usages).Sublist usages := by
  unfold dropLeastUsed
  split
  · exact List.Sublist.refl _
  · exact List.eraseP_sublist

/-- Dropping several lines leaves the others in their order. -/
lemma dropLeastUsedTimes_sublist (kept : Option String) (n : Nat) (usages : List Usage) :
    (dropLeastUsedTimes kept n usages).Sublist usages := by
  induction n generalizing usages with
  | zero => exact List.Sublist.refl _
  | succ n ih => exact (ih _).trans (dropLeastUsed_sublist kept usages)

/-- Bounding the table leaves the lines that stay in their order. -/
lemma boundUsages_sublist (kept : Option String) (limit : Nat) (usages : List Usage) :
    (boundUsages kept limit usages).Sublist usages := by
  rw [boundUsages_eq_dropLeastUsedTimes]
  exact dropLeastUsedTimes_sublist kept _ usages

/-- Nothing is dropped from a table within its bound. -/
lemma boundUsages_eq_self {limit : Nat} {usages : List Usage} (kept : Option String)
    (h : usages.length ≤ limit) : boundUsages kept limit usages = usages := by
  unfold boundUsages
  rw [if_pos h]

/-- Of two commands there is one that need not stay. -/
lemma exists_mem_ne {usages : List Usage} (h : (commands usages).Nodup)
    (hlength : 2 ≤ usages.length) (kept : Option String) : ∃ u ∈ usages, some u.command ≠ kept := by
  match usages, hlength with
  | u :: v :: rest, _ =>
    by_cases hu : some u.command = kept
    · refine ⟨v, by simp, fun hv => ?_⟩
      have heq : u.command = v.command := Option.some.inj (hu.trans hv.symm)
      exact (List.nodup_cons.mp h).1 (heq ▸ List.mem_cons_self)
    · exact ⟨u, List.mem_cons_self, hu⟩

/-- A command is dropped if there is one that need not stay. -/
lemma length_dropLeastUsed {usages : List Usage} {kept : Option String}
    (h : ∃ u ∈ usages, some u.command ≠ kept) :
    (dropLeastUsed kept usages).length = usages.length - 1 := by
  obtain ⟨u, hu, hkept⟩ := h
  have hcounts : u.count ∈ (usages.filter fun u => some u.command != kept).map Usage.count :=
    List.mem_map_of_mem (List.mem_filter.mpr ⟨hu, bne_iff_ne.mpr hkept⟩)
  unfold dropLeastUsed
  split
  · next hnone =>
    rw [leastCount?, List.min?_eq_none_iff] at hnone
    rw [hnone] at hcounts
    cases hcounts
  · next least hleast =>
    have hmem := (List.min?_eq_some_iff.mp hleast).1
    obtain ⟨v, hv, hcount⟩ := List.mem_map.mp hmem
    obtain ⟨hv, hkept⟩ := List.mem_filter.mp hv
    exact List.length_eraseP_of_mem hv (by rw [hkept, hcount, beq_self_eq_true]; rfl)

/-- As long as a command is left, each turn drops one. -/
lemma length_dropLeastUsedTimes {n : Nat} {usages : List Usage} (h : (commands usages).Nodup)
    (hn : n + 1 ≤ usages.length) (kept : Option String) :
    (dropLeastUsedTimes kept n usages).length = usages.length - n := by
  induction n generalizing usages with
  | zero => rfl
  | succ n ih =>
    have hlength := length_dropLeastUsed (exists_mem_ne h (by omega) kept)
    have hnodup : (commands (dropLeastUsed kept usages)).Nodup :=
      ((dropLeastUsed_sublist kept usages).map _).nodup h
    rw [dropLeastUsedTimes, ih hnodup (by omega), hlength]
    omega

/-- A table in which every command stands once is brought within its bound. -/
theorem length_boundUsages_le {limit : Nat} (hlimit : 1 ≤ limit) {usages : List Usage}
    (h : (commands usages).Nodup) (kept : Option String) :
    (boundUsages kept limit usages).length ≤ limit := by
  by_cases hlength : usages.length ≤ limit
  · rw [boundUsages_eq_self kept hlength]
    exact hlength
  · rw [boundUsages_eq_dropLeastUsedTimes, length_dropLeastUsedTimes h (by omega)]
    omega

/-! ### Recording -/

/-- What recording a line changes in a history whose table is within its bound. -/
lemma record_eq {h : History} {line : String} {now : Int}
    (husages : h.usages.length ≤ h.maxEntries) (hline : isRecorded line = true) :
    h.record line now =
      { h with
        entries := boundEntries h.maxEntries (h.entries ++ [entryOf line now])
        usages := boundUsages (some (Text.trimEnd line)) h.maxEntries
          (addUses h.usages (Text.trimEnd line) 1) } := by
  unfold record
  rw [if_pos hline]
  simp only [bounded, boundUsages_eq_self none husages]
  rfl

/-- The table after a line has been recorded, by the lines that are dropped one by one. -/
lemma usages_record {h : History} {line : String} {now : Int}
    (husages : h.usages.length ≤ h.maxEntries) (hline : isRecorded line = true) :
    let counted := addUses h.usages (Text.trimEnd line) 1
    (h.record line now).usages =
      dropLeastUsedTimes (some (Text.trimEnd line)) (counted.length - h.maxEntries) counted := by
  intro counted
  rw [record_eq husages hline]
  exact boundUsages_eq_dropLeastUsedTimes _ _ _

end TableShell.History

namespace TableShell.HistoryStore

/-- Recording a line into files does to the history what it does in memory. -/
lemma history_record (s : HistoryStore) (line : String) (fs : FileSystem) :
    (s.record line fs).1.history = s.history.record line fs.clock := by
  unfold record
  split
  · rfl
  · next hline =>
    unfold History.record
    rw [if_neg hline]

end TableShell.HistoryStore
