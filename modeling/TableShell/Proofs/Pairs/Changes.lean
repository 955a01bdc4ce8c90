import Mathlib.Data.List.Nodup
import TableShell.Pairs
import TableShell.Proofs.Lookup

/-!
# Changing pairs

Pairs are changed one name at a time. `set_cases` and `erase_cases` say all that a change does to
the list: one pair is put in, replaced or taken out, and what stands before and behind it stays. So
the other names keep their values and their order, whatever the list looks like.

What holds of the name itself depends on the list. A name that is set has the new value. A name that
is dropped has no value any more only if it stood in the list once: `erase` takes out the first
pair, and a second pair of the name is then the first one. Changes never make a name stand twice,
but reading does not look for names that a file repeats.
-/

namespace TableShell.Pairs

variable {p q : Pairs} {name other : String}

/-! ### What a change does -/

/-- Setting a name replaces its first pair or puts a pair at the end. -/
lemma set_cases (p : Pairs) (name value : String) :
    (name ∉ p.names ∧ (p.set name value).entries = p.entries ++ [(name, value)]) ∨
      ∃ before old after, p.entries = before ++ (name, old) :: after ∧
        name ∉ before.map Prod.fst ∧
        (p.set name value).entries = before ++ (name, value) :: after := by
  unfold names set
  induction p.entries with
  | nil => exact .inl ⟨List.not_mem_nil, rfl⟩
  | cons e rest ih =>
    obtain ⟨k, v⟩ := e
    rw [setIn]
    by_cases hk : k = name
    · rw [if_pos (beq_iff_eq.mpr hk), hk]
      exact .inr ⟨[], v, rest, rfl, List.not_mem_nil, rfl⟩
    · rw [if_neg (by simpa using hk)]
      rcases ih with ⟨hnew, hrest⟩ | ⟨before, old, after, hrest, hbefore, hset⟩
      · refine .inl ⟨?_, congrArg _ hrest⟩
        rw [List.map_cons, List.mem_cons, not_or]
        exact ⟨Ne.symm hk, hnew⟩
      · refine .inr ⟨(k, v) :: before, old, after, congrArg _ hrest, ?_, congrArg _ hset⟩
        rw [List.map_cons, List.mem_cons, not_or]
        exact ⟨Ne.symm hk, hbefore⟩

/-- Dropping a name takes out its first pair, if it has one. -/
lemma erase_cases (p : Pairs) (name : String) :
    (name ∉ p.names ∧ (p.erase name).entries = p.entries) ∨
      ∃ before old after, p.entries = before ++ (name, old) :: after ∧
        name ∉ before.map Prod.fst ∧ (p.erase name).entries = before ++ after := by
  unfold names erase
  rcases List.exists_or_eq_self_of_eraseP (fun e : String × String => e.1 == name) p.entries with
    hnone | ⟨e, before, after, hbefore, he, hentries, herase⟩
  · refine .inl ⟨fun hmem => ?_, hnone⟩
    obtain ⟨e, he, hname⟩ := List.mem_map.mp hmem
    have hshorter := List.length_eraseP_of_mem (p := fun e => e.1 == name) he (beq_iff_eq.mpr hname)
    have hpos := List.length_pos_of_mem he
    rw [hnone] at hshorter
    omega
  · obtain ⟨k, old⟩ := e
    obtain rfl : k = name := beq_iff_eq.mp he
    refine .inr ⟨before, old, after, hentries, fun hmem => ?_, herase⟩
    obtain ⟨e, he, hname⟩ := List.mem_map.mp hmem
    exact hbefore e he (beq_iff_eq.mpr hname)

/-- Setting a name brings in one pair and no other. -/
lemma mem_set {e : String × String} {value : String} (h : e ∈ (p.set name value).entries) :
    e = (name, value) ∨ e ∈ p.entries := by
  rcases set_cases p name value with ⟨-, hset⟩ | ⟨before, old, after, hentries, -, hset⟩
  · rw [hset, List.mem_append, List.mem_singleton] at h
    exact h.symm
  · rw [hset, List.mem_append, List.mem_cons] at h
    rw [hentries, List.mem_append, List.mem_cons]
    rcases h with hbefore | hnew | hafter
    · exact .inr (.inl hbefore)
    · exact .inl hnew
    · exact .inr (.inr (.inr hafter))

/-! ### The other names -/

/-- All names but one have the same values and stand in the same order. -/
structure AgreeBut (name : String) (p q : Pairs) : Prop where
  values : ∀ other, other ≠ name → p.get? other = q.get? other
  order : p.names.filter (· != name) = q.names.filter (· != name)

/-- Nothing is left of pairs of one name if that name does not count. -/
lemma filter_names_eq_nil {entries : List (String × String)} (h : ∀ e ∈ entries, e.1 = name) :
    (entries.map Prod.fst).filter (· != name) = [] := by
  rw [List.filter_eq_nil_iff]
  intro k hk
  obtain ⟨e, he, rfl⟩ := List.mem_map.mp hk
  simp [h e he]

/-- Lists that differ in a run of pairs of one name agree on the others. -/
lemma agreeBut_of_entries (before mid mid' after : List (String × String))
    (hp : p.entries = before ++ mid ++ after) (hq : q.entries = before ++ mid' ++ after)
    (hmid : ∀ e ∈ mid, e.1 = name) (hmid' : ∀ e ∈ mid', e.1 = name) : AgreeBut name p q where
  values other hother := by
    unfold get?
    rw [hp, hq]
    simp only [List.lookup_append, lookup_eq_none_of_forall hmid hother,
      lookup_eq_none_of_forall hmid' hother]
  order := by
    unfold names
    rw [hp, hq]
    simp only [List.map_append, List.filter_append, filter_names_eq_nil hmid,
      filter_names_eq_nil hmid']

/-- Setting a name leaves the others alone. -/
lemma agreeBut_set (p : Pairs) (name value : String) : AgreeBut name p (p.set name value) := by
  rcases set_cases p name value with ⟨-, hset⟩ | ⟨before, old, after, hentries, -, hset⟩
  · exact agreeBut_of_entries p.entries [] [(name, value)] [] (by simp) (by simp [hset])
      (by simp) (by simp)
  · exact agreeBut_of_entries before [(name, old)] [(name, value)] after
      (by simpa using hentries) (by simpa using hset) (by simp) (by simp)

/-- Dropping a name leaves the others alone. -/
lemma agreeBut_erase (p : Pairs) (name : String) : AgreeBut name p (p.erase name) := by
  rcases erase_cases p name with ⟨-, herase⟩ | ⟨before, old, after, hentries, -, herase⟩
  · exact agreeBut_of_entries p.entries [] [] [] (by simp) (by simp [herase]) (by simp) (by simp)
  · exact agreeBut_of_entries before [(name, old)] [] after (by simpa using hentries)
      (by simpa using herase) (by simp) (by simp)

/-! ### The name that is changed -/

/-- A name has the value that it is set to. -/
lemma get?_set (p : Pairs) (name value : String) : (p.set name value).get? name = some value := by
  unfold get?
  rcases set_cases p name value with ⟨hnew, hset⟩ | ⟨before, old, after, -, hbefore, hset⟩
  · rw [hset, lookup_append_of_notMem hnew, List.lookup_cons_self]
  · rw [hset, lookup_append_of_notMem hbefore, List.lookup_cons_self]

/-- A name that is set keeps its place or comes last. -/
lemma names_set (p : Pairs) (name value : String) :
    (p.set name value).names = if name ∈ p.names then p.names else p.names ++ [name] := by
  rcases set_cases p name value with ⟨hnew, hset⟩ | ⟨before, old, after, hentries, -, hset⟩
  · rw [if_neg hnew, names, hset, List.map_append]
    rfl
  · have hmem : name ∈ p.names := by simp [names, hentries]
    rw [if_pos hmem]
    simp [names, hset, hentries]

/-- Dropping a name drops its first occurrence. -/
lemma names_erase (p : Pairs) (name : String) : (p.erase name).names = p.names.erase name := by
  unfold names erase
  rw [List.erase_eq_eraseP', List.eraseP_map]
  rfl

/-- A name has no value after it has been dropped exactly if it stood in the list at most once. -/
lemma get?_erase_eq_none_iff :
    (p.erase name).get? name = none ↔ p.names.count name ≤ 1 := by
  rw [get?, lookup_eq_none_iff_notMem, ← names, names_erase, ← List.count_eq_zero,
    List.count_erase_self]
  omega

/-! ### Runs of changes -/

/-- A change of one name. -/
inductive Change where
  | set (name value : String)
  | erase (name : String)
  deriving DecidableEq, Repr

/-- Carry out a change. -/
def change (p : Pairs) : Change → Pairs
  | .set name value => p.set name value
  | .erase name => p.erase name

/-- Carry out changes one after the other. -/
def changeAll (p : Pairs) (changes : List Change) : Pairs :=
  changes.foldl change p

/-- A change does not make a name stand twice. -/
lemma nodup_names_change (h : p.names.Nodup) (c : Change) : (p.change c).names.Nodup := by
  cases c with
  | set name value =>
    rw [change, names_set]
    split
    · exact h
    · next hnew =>
      have hnodup := h.concat hnew
      rwa [List.concat_eq_append] at hnodup
  | erase name =>
    rw [change, names_erase]
    exact h.erase name

/-- Changes leave names distinct that were so. -/
lemma nodup_names_changeAll (h : p.names.Nodup) (changes : List Change) :
    (p.changeAll changes).names.Nodup := by
  induction changes generalizing p with
  | nil => exact h
  | cons c rest ih => exact ih (nodup_names_change h c)

/-- What changing one name of a list does. -/
structure ChangesOnly (p : Pairs) (name : String) : Prop where
  get?_set : ∀ value, (p.set name value).get? name = some value
  others_set : ∀ value, AgreeBut name p (p.set name value)
  get?_erase : (p.erase name).get? name = none ↔ p.names.count name ≤ 1
  others_erase : AgreeBut name p (p.erase name)

/-- A change of one name of any list changes that one only. -/
lemma changesOnly (p : Pairs) (name : String) : ChangesOnly p name where
  get?_set := get?_set p name
  others_set := agreeBut_set p name
  get?_erase := get?_erase_eq_none_iff
  others_erase := agreeBut_erase p name

/-- A text file is loaded as pairs that are then changed in any way. All the time a change of one
name leaves the others alone, a name that is set has its value, and a name that is dropped is gone
if it stood in the list once. The names are distinct all the time exactly if the file names none
twice. -/
theorem exists_load_changesOnly {fs : FileSystem} {path text : String}
    (h : fs.readText path = .ok text) :
    ∃ start, load fs path = .ok start ∧ start.names = (parse text).map Prod.fst ∧
      ((∀ changes, (start.changeAll changes).names.Nodup) ↔
        ((parse text).map Prod.fst).Nodup) ∧
      ∀ changes name, ChangesOnly (start.changeAll changes) name := by
  have hload : load fs path = .ok { entries := parse text, path := some path } := by
    unfold load
    rw [h]
  refine ⟨_, hload, rfl, ?_, fun changes name => changesOnly _ name⟩
  constructor
  · intro hall
    exact hall []
  · intro hnodup changes
    have hstart : ({ entries := parse text, path := some path } : Pairs).names.Nodup := hnodup
    exact nodup_names_changeAll hstart changes

/-- A file that names `a` twice and `b` once. -/
def repeatingTree : FileSystem where
  entries := [(["names"], { node := .file (.text "a=1\n b = 2=3 \na=4\nno value\n=5\n") })]

/-- In the example the names are not distinct, and changes of one name still leave the others alone.
-/
theorem exists_load_changesOnly_repeatingTree :
    ∃ start, load repeatingTree "names" = .ok start ∧ start.names = ["a", "b", "a"] ∧
      (∃ changes, ¬ (start.changeAll changes).names.Nodup) ∧
      ChangesOnly (start.changeAll [.erase "b", .set "c" "6"]) "a" := by
  have hread : repeatingTree.readText "names" = .ok "a=1\n b = 2=3 \na=4\nno value\n=5\n" := by
    decide +kernel
  have hnames : (parse "a=1\n b = 2=3 \na=4\nno value\n=5\n").map Prod.fst = ["a", "b", "a"] := by
    decide +kernel
  obtain ⟨start, hload, hstart, hdistinct, hchanges⟩ := exists_load_changesOnly hread
  rw [hnames] at hstart hdistinct
  refine ⟨start, hload, hstart, ?_, hchanges _ _⟩
  have hrepeated : ¬ ["a", "b", "a"].Nodup := by decide
  exact not_forall.mp fun hall => hrepeated (hdistinct.mp hall)

/-- A name that a file repeats stands in the list twice, and dropping it leaves it a value. -/
theorem erase_leaves_repeated_name :
    ∃ start, load repeatingTree "names" = .ok start ∧ ¬ start.names.Nodup ∧
      start.get? "a" = some "1" ∧ (start.erase "a").get? "a" = some "4" := by
  refine ⟨{ entries := [("a", "1"), ("b", "2=3"), ("a", "4")], path := some "names" }, ?_, ?_⟩
  · decide +kernel
  · decide +kernel

end TableShell.Pairs
