import Mathlib.Data.List.Induction
import TableShell.Proofs.FileSystem.Writing

/-!
# Directories by their path names

The entries of a file system make up a tree: what has a location stands in a directory, and its name
is one that a directory can hold. Then the path name of a directory leads through directories only,
and never over a link. So where it leads at all, it leads to that directory, whatever the working
directory is.
-/

namespace TableShell

/-- A name that something in a directory can have. -/
def IsEntryName (name : String) : Prop :=
  name ≠ "" ∧ name ≠ "." ∧ name ≠ ".." ∧ '/' ∉ name.toList

instance : DecidablePred IsEntryName := fun name =>
  inferInstanceAs (Decidable (name ≠ "" ∧ name ≠ "." ∧ name ≠ ".." ∧ '/' ∉ name.toList))

/-- The pieces of the path name of a location below the root. -/
lemma Location.splitOn_display {loc : Location} (h : ∀ name ∈ loc, IsEntryName name)
    (hloc : loc ≠ []) : loc.display.toList.splitOn '/' = [] :: loc.map String.toList := by
  have hslash : ∀ piece ∈ [] :: loc.map String.toList, '/' ∉ piece := by
    intro piece hpiece
    rcases List.mem_cons.mp hpiece with rfl | hpiece
    · exact List.not_mem_nil
    · obtain ⟨name, hname, rfl⟩ := List.mem_map.mp hpiece
      exact (h name hname).2.2.2
  have hdisplay : loc.display.toList = ['/'].intercalate ([] :: loc.map String.toList) := by
    obtain ⟨name, rest, rfl⟩ := List.exists_cons_of_ne_nil hloc
    rw [Location.display, String.toList_append, String.toList_intercalate]
    rfl
  rw [hdisplay, List.splitOn_intercalate _ hslash (List.cons_ne_nil _ _)]

/-- A location is read off its path name. -/
lemma PathName.parse_display {loc : Location} (h : ∀ name ∈ loc, IsEntryName name) :
    PathName.parse loc.display = { absolute := true, parts := loc, trailing := false } := by
  by_cases hloc : loc = []
  · subst hloc
    decide +kernel
  · have hempty : ∀ piece ∈ loc.map String.toList, piece ≠ [] := by
      intro piece hpiece
      obtain ⟨name, hname, rfl⟩ := List.mem_map.mp hpiece
      rw [Ne, String.toList_eq_nil_iff]
      exact (h name hname).1
    have habsolute : loc.display.toList.head? = some '/' := by
      rw [Location.display, String.toList_append]
      rfl
    have hparts : (([] :: loc.map String.toList).filter fun cs => !cs.isEmpty).map
        String.ofList = loc := by
      rw [List.filter_cons_of_neg (by simp), List.filter_eq_self.mpr]
      · simp
      · intro piece hpiece
        simpa using hempty piece hpiece
    have hlast : ([] :: loc.map String.toList).getLast? ≠ some [] := by
      obtain ⟨name, rest, rfl⟩ := List.exists_cons_of_ne_nil hloc
      rw [List.map_cons, List.getLast?_cons_cons]
      intro hlast
      exact hempty [] (List.mem_of_getLast? hlast) rfl
    unfold PathName.parse
    rw [Location.splitOn_display h hloc, habsolute]
    simp only [hparts, beq_false_of_ne hlast, Bool.and_false, beq_self_eq_true]

namespace FileSystem

variable {fs : FileSystem} {loc above below : Location} {p q : Place} {route : Route} {n : Node}

/-- What stands somewhere stands in a directory under a name of its own, and the working directory
is a directory or has been removed. -/
structure IsTree (fs : FileSystem) : Prop where
  names : ∀ entry ∈ fs.entries, ∀ name ∈ entry.1, IsEntryName name
  parents : ∀ entry ∈ fs.entries, fs.node? entry.1.dropLast = some .directory
  here : fs.nodeAt? fs.here = some .directory

/-! ### The working directory does not matter -/

/-- A walk from a given place does not depend on where the working directory is. -/
lemma advance_here (p : Place) (parts : List String) :
    ({ fs with here := p } : FileSystem).advance route q parts = fs.advance route q parts := by
  induction parts generalizing q with
  | nil => rfl
  | cons name rest ih =>
    unfold advance
    simp only [ih]
    rfl

/-- The same holds of walks that follow links. -/
lemma walk_here (p : Place) {links : Nat} {parts : List String} :
    ({ fs with here := p } : FileSystem).walk route links q parts =
      fs.walk route links q parts := by
  induction links generalizing q parts with
  | zero =>
    unfold walk
    rw [advance_here]
  | succ links ih =>
    unfold walk
    simp only [advance_here, ih]

/-- An absolute path name leads to the same place from everywhere. -/
lemma resolve_here {path : String} (habsolute : (PathName.parse path).absolute = true) (p : Place)
    (followLast : Bool) :
    ({ fs with here := p } : FileSystem).resolve path followLast = fs.resolve path followLast := by
  unfold resolve startOf
  simp only [habsolute, walk_here, if_true]

namespace IsTree

/-- The working directory can be any directory. -/
lemma move (h : fs.IsTree) (hp : fs.nodeAt? p = some .directory) :
    ({ fs with here := p } : FileSystem).IsTree where
  names := h.names
  parents := h.parents
  here := hp

/-- What stands anywhere but at the root is listed among the entries. -/
lemma exists_mem_entries (hn : fs.node? loc = some n) (hloc : loc ≠ []) :
    ∃ entry ∈ fs.entries, entry.1 = loc := by
  unfold node? entry? at hn
  rw [if_neg (by simpa using hloc)] at hn
  obtain ⟨e, he, -⟩ := Option.map_eq_some_iff.mp hn
  exact ⟨(loc, e), mem_of_lookup_eq_some he, rfl⟩

/-- Above what stands somewhere there are directories only. -/
lemma directory_above (h : fs.IsTree) (hn : fs.node? (above ++ below) = some n)
    (hbelow : below ≠ []) : fs.node? above = some .directory := by
  induction below using List.reverseRecOn generalizing n with
  | nil => exact absurd rfl hbelow
  | append_singleton below name ih =>
    obtain ⟨entry, hentry, hloc⟩ :=
      exists_mem_entries hn (List.append_ne_nil_of_right_ne_nil _ (by simp))
    have hparent := h.parents entry hentry
    rw [hloc, ← List.append_assoc, List.dropLast_concat] at hparent
    by_cases hnil : below = []
    · rwa [hnil, List.append_nil] at hparent
    · exact ih hparent hnil

/-- In a tree, the names on the way to what stands somewhere are names of entries. -/
lemma isEntryName (h : fs.IsTree) (hn : fs.node? loc = some n) :
    ∀ name ∈ loc, IsEntryName name := by
  intro name hname
  obtain ⟨entry, hentry, rfl⟩ := exists_mem_entries hn (List.ne_nil_of_mem hname)
  exact h.names entry hentry name hname

/-- A working directory that has a path name is a directory of the tree. -/
lemma exists_of_workingDirectory (h : fs.IsTree) {path : String}
    (hpath : fs.workingDirectory = .ok path) :
    ∃ loc, fs.here = { live := loc } ∧ path = loc.display ∧ fs.node? loc = some .directory := by
  unfold workingDirectory at hpath
  split at hpath
  · next hlost =>
    have hnil : fs.here.lost = [] := List.isEmpty_iff.mp hlost
    have hdirectory := h.here
    rw [nodeAt_of_lost_nil hnil] at hdirectory
    refine ⟨fs.here.live, ?_, (Except.ok.inj hpath).symm, hdirectory⟩
    rw [← hnil]
  · cases hpath

/-- Along directories, a walk meets no link. -/
lemma advance_of_directory (h : fs.IsTree) {rest : List String} {stop : Place ⊕ Detour}
    (hloc : fs.node? (loc ++ rest) = some .directory)
    (hstop : fs.advance route { live := loc } rest = .ok stop) :
    stop = .inl { live := loc ++ rest } := by
  induction rest generalizing loc with
  | nil =>
    rw [List.append_nil]
    exact (Except.ok.inj hstop).symm
  | cons name rest ih =>
    obtain ⟨-, hhere, hup, -⟩ := h.isEntryName hloc name (by simp)
    have hsplit : loc ++ name :: rest = loc ++ [name] ++ rest := by simp
    rw [hsplit] at hloc ⊢
    obtain ⟨next, hnext, hstop⟩ := bind_eq_ok.mp hstop
    obtain ⟨⟨⟩, -, hstop⟩ := bind_eq_ok.mp hstop
    have hlive : next = { live := loc ++ [name] } := by
      unfold child at hnext
      simp only [beq_iff_eq, hhere, hup, if_false, List.isEmpty_nil, Bool.not_true,
        Bool.false_eq_true] at hnext
      split at hnext
      · split at hnext
        · cases hnext
        · exact (Except.ok.inj hnext).symm
      · cases hnext
    subst hlive
    -- The next place is the last one or stands above it.
    have hnode : fs.nodeAt? { live := loc ++ [name] } = some .directory := by
      rw [nodeAt_of_lost_nil rfl]
      by_cases hnil : rest = []
      · rwa [hnil, List.append_nil] at hloc
      · exact h.directory_above hloc hnil
    rw [hnode] at hstop
    exact ih hloc hstop

/-- The path name of a directory leads nowhere else. -/
lemma resolve_display (h : fs.IsTree) (hloc : fs.node? loc = some .directory)
    (hp : fs.resolve loc.display true = .ok p) : p = { live := loc } := by
  obtain ⟨⟨⟩, -, hp⟩ := bind_eq_ok.mp hp
  obtain ⟨⟨place, left⟩, hwalk, hp⟩ := bind_eq_ok.mp hp
  obtain rfl := Except.ok.inj hp
  rw [PathName.parse_display (h.isEntryName hloc)] at hwalk
  unfold walk at hwalk
  obtain ⟨stop, hstop, hwalk⟩ := bind_eq_ok.mp hwalk
  have hsteps : (PathName.mk true loc false).steps = loc := List.append_nil loc
  rw [hsteps] at hstop
  have hstart : fs.node? ([] ++ loc) = some .directory := hloc
  obtain rfl := h.advance_of_directory hstart hstop
  exact (Prod.mk.inj (Except.ok.inj hwalk)).1.symm

/-- A directory whose path name leads somewhere can be entered by it from everywhere. -/
theorem enter_display (h : fs.IsTree) (hloc : fs.node? loc = some .directory)
    (hexists : fs.pathExists loc.display = true) (q : Place) :
    ({ fs with here := q } : FileSystem).isDirectory loc.display = true ∧
      ({ fs with here := q } : FileSystem).enter loc.display =
        .ok { fs with here := { live := loc } } := by
  have habsolute : (PathName.parse loc.display).absolute = true := by
    rw [PathName.parse_display (h.isEntryName hloc)]
  have hresolve : ({ fs with here := q } : FileSystem).resolve loc.display true =
      .ok { live := loc } := by
    rw [resolve_here habsolute]
    unfold pathExists at hexists
    split at hexists
    · next p hp => rw [hp, h.resolve_display hloc hp]
    · cases hexists
  have hnode : ({ fs with here := q } : FileSystem).nodeAt? { live := loc } = some .directory :=
    hloc
  constructor
  · rw [isDirectory, hresolve]
    exact beq_iff_eq.mpr hnode
  · rw [enter, hresolve]
    simp only [bind, Except.bind, hnode]
    rfl

end IsTree

end FileSystem

end TableShell
