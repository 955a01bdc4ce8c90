import Mathlib.Data.List.Nodup
import TableShell.Proofs.History.Counting
import TableShell.Proofs.StableSort.Order
import TableShell.Proofs.Text.Boundary

/-!
# Commands suggested from a history

For a text that is being typed, a history suggests the commands of its table that continue it: those
that begin with the text, and behind them, if the text is long enough, those that contain it
elsewhere. `RanksBefore` is the order within each of the two groups, and `SuggestedGroups` says
which commands they hold.

A command is suggested once because it stands in the table once, which holds of every history that
can be reached: lines that are loaded are merged with earlier ones, and dropping lines adds none.
-/

namespace TableShell

namespace History

variable {h : History} {command typed : String} {minSubstring : Nat}

/-- A command was used more often than another one, or as often and stands in front of it in the
table. -/
def RanksBefore (h : History) (a b : String) : Prop :=
  h.countOf b < h.countOf a ∨
    h.countOf a = h.countOf b ∧ [a, b].Sublist (commands h.usages)

/-- The two groups of commands that continue a text. Together they list no command twice, and the
text itself is in neither. -/
structure SuggestedGroups (h : History) (typed : String) (minSubstring : Nat)
    (beginning containing : List String) : Prop where
  nodup : (beginning ++ containing).Nodup
  notMem : typed ∉ beginning ++ containing
  mem_beginning : ∀ command, command ∈ beginning ↔
    command ∈ commands h.usages ∧ command ≠ typed ∧ typed.toList <+: command.toList
  mem_containing : ∀ command, command ∈ containing ↔
    command ∈ commands h.usages ∧ minSubstring ≤ typed.length ∧
      ¬ typed.toList <+: command.toList ∧ typed.toList <:+: command.toList
  ranked_beginning : beginning.Pairwise h.RanksBefore
  ranked_containing : containing.Pairwise h.RanksBefore

/-! ### Ranked commands -/

/-- In a table that lists no command twice, every line has the count of its command. -/
lemma countOf_eq_of_mem (hnodup : (commands h.usages).Nodup) {u : Usage} (hu : u ∈ h.usages) :
    h.countOf u.command = u.count := by
  unfold countOf
  cases hfind : h.usages.find? fun v => v.command == u.command with
  | none => exact absurd (beq_self_eq_true u.command) (List.find?_eq_none.mp hfind u hu)
  | some v =>
    have hcommand : v.command = u.command := by simpa using List.find?_some hfind
    have hsame := List.inj_on_of_nodup_map hnodup (List.mem_of_find?_eq_some hfind) hu hcommand
    rw [hsame]
    rfl

/-- The commands of a table that satisfy a condition, ranked. -/
def rankedWhere (h : History) (p : String → Bool) : List String :=
  ranked (h.usages.filter fun u => p u.command)

variable {p : String → Bool}

/-- The ranking lists the lines of the table that meet the condition. -/
lemma mem_rankedWhere :
    command ∈ h.rankedWhere p ↔ command ∈ commands h.usages ∧ p command = true := by
  simp only [rankedWhere, ranked, commands, List.mem_map, List.mem_mergeSort, List.mem_filter]
  constructor
  · rintro ⟨u, ⟨hu, hp⟩, rfl⟩
    exact ⟨⟨u, hu, rfl⟩, hp⟩
  · rintro ⟨⟨u, hu, rfl⟩, hp⟩
    exact ⟨u, ⟨hu, hp⟩, rfl⟩

/-- The ranking lists no line twice if the table does not. -/
lemma nodup_rankedWhere (hnodup : (commands h.usages).Nodup) (p : String → Bool) :
    (h.rankedWhere p).Nodup := by
  have hkept : (commands (h.usages.filter fun u => p u.command)).Nodup :=
    (List.filter_sublist.map Usage.command).nodup hnodup
  exact ((List.mergeSort_perm _ _).map Usage.command).nodup_iff.mpr hkept

/-- Ranked commands stand in the order of their counts and, where these are equal, of the table. -/
lemma pairwise_rankedWhere (hnodup : (commands h.usages).Nodup) (p : String → Bool) :
    (h.rankedWhere p).Pairwise h.RanksBefore := by
  have htrans : ∀ a b c : Usage, decide (b.count ≤ a.count) = true →
      decide (c.count ≤ b.count) = true → decide (c.count ≤ a.count) = true := by
    simp only [decide_eq_true_eq]
    omega
  have htotal : ∀ a b : Usage,
      (decide (b.count ≤ a.count) || decide (a.count ≤ b.count)) = true := by
    simp only [Bool.or_eq_true, decide_eq_true_eq]
    omega
  have hsorted := pairwise_mergeSort_sublist htrans htotal (h.usages.filter fun u => p u.command)
  have hcount {u : Usage} (hu : u ∈ (h.usages.filter fun u => p u.command).mergeSort
      fun a b => b.count ≤ a.count) : h.countOf u.command = u.count :=
    countOf_eq_of_mem hnodup (List.mem_of_mem_filter (List.mem_mergeSort.mp hu))
  rw [rankedWhere, ranked, List.pairwise_map]
  refine hsorted.imp_of_mem fun {a b} ha hb hab => ?_
  obtain ⟨hle, hties⟩ := hab
  rw [RanksBefore, hcount ha, hcount hb]
  rcases Nat.lt_or_eq_of_le (of_decide_eq_true hle) with hlt | heq
  · exact .inl hlt
  · have hlisted := hties (decide_eq_true heq.ge)
    exact .inr ⟨heq.symm, (hlisted.trans List.filter_sublist).map Usage.command⟩

/-! ### Suggested commands -/

/-- Whether a command begins with a text and goes on behind it. -/
def goesOn (typed command : String) : Bool :=
  command != typed && Text.startsWith command typed

/-- Whether a command holds a text that is long enough, but does not begin with it. -/
def holdsInside (typed : String) (minSubstring : Nat) (command : String) : Bool :=
  decide (minSubstring ≤ typed.length) && !Text.startsWith command typed &&
    Text.contains command typed

/-- A line goes on from what is typed if it begins with it and is not the same. -/
lemma goesOn_iff :
    goesOn typed command = true ↔ command ≠ typed ∧ typed.toList <+: command.toList := by
  rw [goesOn, Bool.and_eq_true, bne_iff_ne, Text.startsWith_iff]

/-- A line holds what is typed inside if it occurs there but not in front, and is long enough to be
searched for. -/
lemma holdsInside_iff :
    holdsInside typed minSubstring command = true ↔
      minSubstring ≤ typed.length ∧ ¬ typed.toList <+: command.toList ∧
        typed.toList <:+: command.toList := by
  rw [holdsInside, Bool.and_eq_true, Bool.and_eq_true, decide_eq_true_eq, Bool.not_eq_true',
    ← Bool.not_eq_true, Text.startsWith_iff, Text.contains_iff, and_assoc]

/-- A text that is no command of its own is found inside of others only. -/
lemma ne_of_holdsInside (h : holdsInside typed minSubstring command = true) : command ≠ typed := by
  rintro rfl
  exact (holdsInside_iff.mp h).2.1 (List.prefix_refl _)

/-- What is suggested are two groups of ranked commands. -/
lemma suggestions_eq (hne : typed ≠ "") :
    h.suggestions typed minSubstring =
      h.rankedWhere (goesOn typed) ++ h.rankedWhere (holdsInside typed minSubstring) := by
  have hempty : typed.isEmpty = false := by simpa using hne
  unfold suggestions
  rw [hempty, if_neg Bool.false_ne_true]
  simp only [List.filter_filter]
  congr 1
  · simp only [rankedWhere, goesOn, Bool.and_comm]
  · by_cases hlong : minSubstring ≤ typed.length
    · rw [if_pos hlong, rankedWhere]
      congr 2
      funext u
      have hinside : (!Text.startsWith u.command typed && Text.contains u.command typed) =
          holdsInside typed minSubstring u.command := by
        rw [holdsInside, decide_eq_true hlong, Bool.true_and]
      rw [hinside, Bool.and_eq_left_iff_imp]
      intro h
      exact bne_iff_ne.mpr (ne_of_holdsInside h)
    · rw [if_neg hlong]
      simp [hlong, rankedWhere, ranked, holdsInside]

/-- The groups that are suggested from a table which lists no command twice. -/
theorem suggestedGroups_of_nodup (hnodup : (commands h.usages).Nodup) (typed : String)
    (minSubstring : Nat) :
    h.SuggestedGroups typed minSubstring (h.rankedWhere (goesOn typed))
      (h.rankedWhere (holdsInside typed minSubstring)) := by
  constructor
  case nodup =>
    refine List.nodup_append.mpr ⟨nodup_rankedWhere hnodup _, nodup_rankedWhere hnodup _, ?_⟩
    rintro command hbeginning _ hcontaining rfl
    have hprefix := (goesOn_iff.mp (mem_rankedWhere.mp hbeginning).2).2
    exact (holdsInside_iff.mp (mem_rankedWhere.mp hcontaining).2).2.1 hprefix
  case notMem =>
    rw [List.mem_append, mem_rankedWhere, mem_rankedWhere]
    rintro (⟨-, h⟩ | ⟨-, h⟩)
    · exact (goesOn_iff.mp h).1 rfl
    · exact ne_of_holdsInside h rfl
  case mem_beginning =>
    intro command
    rw [mem_rankedWhere, goesOn_iff]
  case mem_containing =>
    intro command
    rw [mem_rankedWhere, holdsInside_iff]
  case ranked_beginning => exact pairwise_rankedWhere hnodup _
  case ranked_containing => exact pairwise_rankedWhere hnodup _

end History

namespace HistoryStore

open History (SuggestedGroups)

/-- What is suggested for a text from a history that can be reached. Nothing is suggested for an
empty text, and otherwise the commands that begin with the text come first, and then those that hold
it inside. -/
theorem exists_suggestedGroups {s : HistoryStore} (h : Reachable s) (typed : String)
    (minSubstring : Nat) :
    (typed = "" → s.history.suggestions typed minSubstring = []) ∧
      (typed ≠ "" → ∃ beginning containing,
        s.history.suggestions typed minSubstring = beginning ++ containing ∧
          s.history.SuggestedGroups typed minSubstring beginning containing) := by
  constructor
  · rintro rfl
    rfl
  · intro hne
    exact ⟨_, _, History.suggestions_eq hne,
      History.suggestedGroups_of_nodup h.withinBound.nodup typed minSubstring⟩

/-- A tree with a table that lists a command twice. -/
def repeatingTree : FileSystem where
  entries := [
    (["table"], { node := .file (.text
      "cd ls|2\nls -l|1\nls|9\npwd|0\nls -a|1\nls -a|2\ncat als|2\n") })]

/-- The history of that table, with one more line for which there is no room. -/
def fullHistory : HistoryStore :=
  (((load repeatingTree { table := some "table" }).withMaxEntries 6).record "man ls" {}).1

/-- In particular the counts of a command are added up, and of two commands with the same count the
one that was seen first comes first. -/
theorem exists_suggestedGroups_fullHistory :
    Reachable fullHistory ∧ "ls" ≠ "" ∧
      fullHistory.history.suggestions "ls" 2 = ["ls -a", "ls -l", "cd ls", "cat als", "man ls"] ∧
      ∃ beginning containing,
        beginning ++ containing = ["ls -a", "ls -l", "cd ls", "cat als", "man ls"] ∧
          fullHistory.history.SuggestedGroups "ls" 2 beginning containing := by
  have hreachable : Reachable fullHistory := .recorded _ _ (.bounded _ (.loaded _ _))
  have hne : "ls" ≠ "" := by decide
  have husages : fullHistory.history.usages =
      [⟨"cd ls", 2⟩, ⟨"ls -l", 1⟩, ⟨"ls", 9⟩, ⟨"ls -a", 3⟩, ⟨"cat als", 2⟩, ⟨"man ls", 1⟩] := by
    rw [fullHistory, history_record, History.usages_record (by decide +kernel) (by decide +kernel)]
    decide +kernel
  have hbeginning : (fullHistory.history.usages.filter fun u => History.goesOn "ls" u.command) =
      [⟨"ls -l", 1⟩, ⟨"ls -a", 3⟩] := by
    rw [husages]
    decide +kernel
  have hcontaining :
      (fullHistory.history.usages.filter fun u => History.holdsInside "ls" 2 u.command) =
        [⟨"cd ls", 2⟩, ⟨"cat als", 2⟩, ⟨"man ls", 1⟩] := by
    rw [husages]
    decide +kernel
  have hlisted : fullHistory.history.suggestions "ls" 2 =
      ["ls -a", "ls -l", "cd ls", "cat als", "man ls"] := by
    rw [History.suggestions_eq hne, History.rankedWhere, History.rankedWhere, hbeginning,
      hcontaining]
    simp [History.ranked, List.mergeSort]
  obtain ⟨beginning, containing, hgroups, hsuggested⟩ :=
    (exists_suggestedGroups hreachable "ls" 2).2 hne
  exact ⟨hreachable, hne, hlisted, beginning, containing, hgroups.symm.trans hlisted, hsuggested⟩

end HistoryStore

end TableShell
