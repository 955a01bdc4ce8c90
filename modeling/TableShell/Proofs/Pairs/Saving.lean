import TableShell.Proofs.FileSystem.Writing
import TableShell.Proofs.Pairs.Lines

/-!
# Saved pairs

Once pairs have been loaded from a file or saved to it, the file is loaded as what is read of their
text: `SavedIn` says so of the tree of files. They are loaded again as they are exactly if all of
them are storable. A failure to save names the file, which tells it from the failures of names that
do not exist or do not fit.
-/

namespace TableShell

/-! ### Details of failures -/

namespace Failure

/-- A detail that is added is found, and the other details are as they were. -/
lemma detail?_withDetail (f : Failure) (name value other : String) :
    (f.withDetail name value).detail? other =
      if other = name then some value else f.detail? other :=
  lookup_replaced f.context name other value

end Failure

namespace Pairs

variable {fs : FileSystem} {path : String} {p : Pairs}

/-- A failure to read or write a file of pairs names the file. -/
lemma detail?_fileFailure (path : String) (e : FileError) :
    (fileFailure path e).detail? "path" = some path := by
  rw [fileFailure, Failure.detail?_withDetail, if_pos rfl]

/-! ### Loading -/

/-- What is loaded is what is read of the text of the file, or nothing. -/
lemma load_cases (h : load fs path = .ok p) :
    p.path = some path ∧ ((∃ text, p.entries = parse text) ∨ p.entries = []) := by
  unfold load at h
  split at h
  · next text _ =>
    obtain rfl := Except.ok.inj h
    exact ⟨rfl, .inl ⟨text, rfl⟩⟩
  · obtain rfl := Except.ok.inj h
    exact ⟨rfl, .inr rfl⟩
  · cases h

/-- Pairs that are loaded from a file are storable. -/
lemma isStorable_of_load (h : load fs path = .ok p) : ∀ e ∈ p.entries, IsStorable e := by
  intro e he
  obtain ⟨-, ⟨text, hentries⟩ | hentries⟩ := load_cases h
  · rw [hentries] at he
    exact isStorable_of_mem_parse he
  · rw [hentries] at he
    cases he

/-! ### Saving -/

/-- The file of pairs is loaded as what is read of their text. -/
structure SavedIn (fs : FileSystem) (path : String) (p : Pairs) : Prop where
  path_eq : p.path = some path
  loads : load fs path = .ok { entries := parse (text p.entries), path := some path }

/-- Pairs that are loaded stand in their file. -/
lemma savedIn_of_load (h : load fs path = .ok p) : SavedIn fs path p where
  path_eq := (load_cases h).1
  loads := by
    rw [parse_text (isStorable_of_load h), ← (load_cases h).1]
    exact h

/-- Pairs with a file stand in it when they have been saved, or the failure names the file. -/
lemma save_cases (hpath : p.path = some path) (fs : FileSystem) :
    (∃ fs', p.save fs = (.ok (), fs') ∧ SavedIn fs' path p) ∨
      ∃ failure fs', p.save fs = (.error failure, fs') ∧ failure.detail? "path" = some path := by
  unfold save
  rw [hpath]
  simp only
  split
  · next e made _ => exact .inr ⟨_, made, rfl, detail?_fileFailure path e⟩
  · next made _ =>
    split
    · next e _ => exact .inr ⟨_, made, rfl, detail?_fileFailure path e⟩
    · next fs' hwrite =>
      have hloads : load fs' path =
          .ok { entries := parse (text p.entries), path := some path } := by
        unfold load
        rw [FileSystem.readText_of_writeFile hwrite]
      exact .inl ⟨fs', rfl, hpath, hloads⟩

/-- Pairs are loaded again as they are exactly if all of them are storable. -/
theorem SavedIn.loadOrEmpty_eq_iff (h : SavedIn fs path p) :
    loadOrEmpty fs (some path) = p ↔ ∀ e ∈ p.entries, IsStorable e := by
  have hloaded : loadOrEmpty fs (some path) =
      { entries := parse (text p.entries), path := some path } := by
    unfold loadOrEmpty
    simp only [h.loads]
    rfl
  rw [← parse_text_eq_self_iff, hloaded]
  constructor
  · intro heq
    exact congrArg Pairs.entries heq
  · intro heq
    rw [heq, ← h.path_eq]

end Pairs

end TableShell
