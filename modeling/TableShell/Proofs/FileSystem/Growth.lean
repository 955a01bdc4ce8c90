import TableShell.FileSystem.Change
import TableShell.Proofs.Fallible
import TableShell.Proofs.Lookup

/-!
# Growing trees

A tree grows if everything in it stays where and what it is; only what files hold may change. A
path name that leads somewhere leads to the same place in every tree that has grown since: the walk
along its pieces meets the same directories and links.

Making directories is a growth of a special kind: nothing changes but that there are directories
where nothing stood. That holds of a chain of directories also if its making fails half-way.
-/

namespace TableShell

/-- What stands at a location, whatever a file holds. -/
def Node.emptied : Node → Node
  | .file _ => .file (.text "")
  | n => n

/-- Forgetting the contents of files tells directories from all else. -/
lemma Node.emptied_eq_directory {n : Node} : n.emptied = .directory ↔ n = .directory := by
  cases n <;> simp [Node.emptied]

/-- Forgetting the contents of files keeps what a link names. -/
lemma Node.emptied_eq_link {n : Node} {target : String} :
    n.emptied = .link target ↔ n = .link target := by
  cases n <;> simp [Node.emptied]

/-- Forgetting the contents of files makes all files equal. -/
lemma Node.emptied_eq_file {n : Node} {contents : Contents} :
    n.emptied = (Node.file contents).emptied ↔ ∃ c, n = .file c := by
  cases n <;> simp [Node.emptied]

namespace FileSystem

variable {fs fs' fs'' : FileSystem} {loc : Location} {p q : Place} {route : Route}

/-! ### Putting something somewhere -/

/-- Nothing changes elsewhere if something is put at a location. -/
lemma node?_put {e : Entry} (hloc : loc ≠ []) (l : Location) :
    (fs.put loc e).node? l = if l = loc then some e.node else fs.node? l := by
  unfold put node? entry?
  rw [lookup_replaced]
  by_cases hl : l = loc
  · simp [hl, hloc]
  · simp [hl]

/-! ### Growth -/

/-- A tree has grown: what stood somewhere still stands there, though a file may hold something
else. -/
structure Grows (fs fs' : FileSystem) : Prop where
  here : fs'.here = fs.here
  keeps : ∀ loc n, fs.node? loc = some n → ∃ n', fs'.node? loc = some n' ∧ n'.emptied = n.emptied

namespace Grows

/-- A tree has grown from itself. -/
lemma refl (fs : FileSystem) : Grows fs fs where
  here := rfl
  keeps _ n hn := ⟨n, hn, rfl⟩

/-- Growing twice is growing. -/
lemma trans (h : Grows fs fs') (h' : Grows fs' fs'') : Grows fs fs'' where
  here := h'.here.trans h.here
  keeps loc n hn := by
    obtain ⟨n', hn', hkind⟩ := h.keeps loc n hn
    obtain ⟨n'', hn'', hkind'⟩ := h'.keeps loc n' hn'
    exact ⟨n'', hn'', hkind'.trans hkind⟩

/-- The time of the tree has no part in what stands where. -/
lemma clock (fs : FileSystem) (time : Int) : Grows fs { fs with clock := time } where
  here := rfl
  keeps _ n hn := ⟨n, hn, rfl⟩

/-- What stands at a place stands there afterwards, but for what a file holds. -/
lemma keepsAt (h : Grows fs fs') {n : Node} (hn : fs.nodeAt? p = some n) :
    ∃ n', fs'.nodeAt? p = some n' ∧ n'.emptied = n.emptied := by
  unfold nodeAt? at hn ⊢
  by_cases hlost : p.lost.isEmpty
  · rw [if_pos hlost] at hn ⊢
    exact h.keeps _ _ hn
  · rw [if_neg hlost] at hn ⊢
    exact ⟨n, hn, rfl⟩

/-- A directory is still a directory. -/
lemma directory (h : Grows fs fs') (hp : fs.nodeAt? p = some .directory) :
    fs'.nodeAt? p = some .directory := by
  obtain ⟨n, hn, hkind⟩ := h.keepsAt hp
  rw [hn, Node.emptied_eq_directory.mp hkind]

/-- A link still has its target. -/
lemma link (h : Grows fs fs') {target : String} (hp : fs.nodeAt? p = some (.link target)) :
    fs'.nodeAt? p = some (.link target) := by
  obtain ⟨n, hn, hkind⟩ := h.keepsAt hp
  rw [hn, Node.emptied_eq_link.mp hkind]

/-! ### Path names -/

/-- A step from a directory leads where it led. -/
lemma child (h : Grows fs fs') {name : String} (hq : fs.child p name = .ok q) :
    fs'.child p name = .ok q := by
  unfold FileSystem.child at hq ⊢
  split at hq
  · rw [h.directory ‹_›]
    exact hq
  · cases hq

/-- A walk that ended or met a link in the old tree does so in the new one. -/
lemma advance (h : Grows fs fs') {parts : List String} {r : Place ⊕ Detour}
    (hr : fs.advance route p parts = .ok r) : fs'.advance route p parts = .ok r := by
  induction parts generalizing p with
  | nil => exact hr
  | cons name rest ih =>
    obtain ⟨next, hnext, hr⟩ := bind_eq_ok.mp hr
    obtain ⟨⟨⟩, hreach, hr⟩ := bind_eq_ok.mp hr
    refine bind_eq_ok.mpr ⟨next, h.child hnext, bind_eq_ok.mpr ⟨(), hreach, ?_⟩⟩
    split at hr
    · cases hr
    · rw [h.link ‹_›]
      exact hr
    · next n hlink hn =>
      obtain ⟨n', hn', hkind⟩ := h.keepsAt hn
      rw [hn']
      cases n' with
      | link target =>
        exact absurd (Node.emptied_eq_link.mp hkind.symm) (hlink target)
      | directory => exact ih hr
      | file contents => exact ih hr

/-- A walk that ends somewhere ends there also after a growth. -/
lemma walk (h : Grows fs fs') {links : Nat} {parts : List String} {r : Place × Nat}
    (hr : fs.walk route links p parts = .ok r) : fs'.walk route links p parts = .ok r := by
  induction links generalizing p parts with
  | zero =>
    unfold FileSystem.walk at hr ⊢
    obtain ⟨stop, hstop, hr⟩ := bind_eq_ok.mp hr
    exact bind_eq_ok.mpr ⟨stop, h.advance hstop, hr⟩
  | succ links ih =>
    unfold FileSystem.walk at hr ⊢
    obtain ⟨stop, hstop, hr⟩ := bind_eq_ok.mp hr
    refine bind_eq_ok.mpr ⟨stop, h.advance hstop, ?_⟩
    cases stop with
    | inl place => exact hr
    | inr detour =>
      obtain ⟨⟨⟩, hname, hr⟩ := bind_eq_ok.mp hr
      exact bind_eq_ok.mpr ⟨(), hname, ih hr⟩

/-- Walks begin at the same place in both trees. -/
lemma startOf (h : Grows fs fs') (absolute : Bool) :
    fs'.startOf absolute = fs.startOf absolute := by
  unfold FileSystem.startOf
  rw [h.here]

/-- A path name that leads somewhere leads there also after a growth. -/
lemma resolve (h : Grows fs fs') {path : String} {followLast : Bool}
    (hp : fs.resolve path followLast = .ok p) : fs'.resolve path followLast = .ok p := by
  obtain ⟨⟨⟩, hname, hp⟩ := bind_eq_ok.mp hp
  obtain ⟨r, hr, hp⟩ := bind_eq_ok.mp hp
  refine bind_eq_ok.mpr ⟨(), hname, bind_eq_ok.mpr ⟨r, ?_, hp⟩⟩
  rw [h.startOf]
  exact h.walk hr

end Grows

/-! ### Making directories -/

/-- Nothing has changed but that there are directories where nothing stood. -/
structure AddsDirectories (fs fs' : FileSystem) : Prop where
  here : fs'.here = fs.here
  clock : fs'.clock = fs.clock
  node : ∀ loc, fs'.node? loc = fs.node? loc ∨
    fs.node? loc = none ∧ fs'.node? loc = some .directory

namespace AddsDirectories

/-- Nothing has been added to a tree that is left alone. -/
lemma refl (fs : FileSystem) : AddsDirectories fs fs where
  here := rfl
  clock := rfl
  node _ := .inl rfl

/-- Adding directories twice is adding directories. -/
lemma trans (h : AddsDirectories fs fs') (h' : AddsDirectories fs' fs'') :
    AddsDirectories fs fs'' where
  here := h'.here.trans h.here
  clock := h'.clock.trans h.clock
  node loc := by
    rcases h'.node loc with hnode' | ⟨hnone, hnode'⟩
    · rw [hnode']
      exact h.node loc
    · rcases h.node loc with hnode | ⟨-, hnode⟩
      · exact .inr ⟨hnode ▸ hnone, hnode'⟩
      · rw [hnode] at hnone
        cases hnone

/-- Adding directories is a way of growing. -/
lemma grows (h : AddsDirectories fs fs') : Grows fs fs' where
  here := h.here
  keeps loc n hn := by
    rcases h.node loc with hnode | ⟨hnone, -⟩
    · exact ⟨n, hnode.trans hn, rfl⟩
    · rw [hnone] at hn
      cases hn

/-- Files are what they were. -/
lemma node_file (h : AddsDirectories fs fs') {contents : Contents} :
    fs'.node? loc = some (.file contents) ↔ fs.node? loc = some (.file contents) := by
  rcases h.node loc with hnode | ⟨hnone, hnode⟩
  · rw [hnode]
  · simp [hnone, hnode]

end AddsDirectories

/-- A directory is made where nothing stood. -/
lemma addsDirectories_makeDirectory {path : String} (h : fs.makeDirectory path = .ok fs') :
    AddsDirectories fs fs' := by
  obtain ⟨holder, -, h⟩ := bind_eq_ok.mp h
  cases holder with
  | none => cases h
  | some holder =>
    obtain ⟨holder, last⟩ := holder
    simp only at h
    split at h
    · cases h
    · obtain ⟨place, -, h⟩ := bind_eq_ok.mp h
      split at h
      · cases h
      · next hfree =>
        cases h
        have hroot : place.live ≠ [] := by
          intro hlive
          rw [hlive] at hfree
          cases hfree
        refine ⟨rfl, rfl, fun loc => ?_⟩
        rw [node?_put hroot]
        by_cases hloc : loc = place.live
        · exact .inr ⟨hloc ▸ hfree, if_pos hloc⟩
        · exact .inl (if_neg hloc)

/-- A chain of directories is made where nothing stood, as far as it is made. -/
lemma addsDirectories_makeChain (fs : FileSystem) (path : String) (pieces : Nat) :
    AddsDirectories fs (fs.makeChain path pieces).2 := by
  induction pieces generalizing path fs with
  | zero => exact .refl fs
  | succ pieces ih =>
    unfold makeChain
    by_cases hempty : path.isEmpty
    · rw [if_pos hempty]
      exact .refl fs
    · rw [if_neg hempty]
      simp only
      split
      · exact addsDirectories_makeDirectory ‹_›
      · split
        · exact .refl fs
        · next above _ =>
          have habove := ih fs above
          split <;> rename_i hmade <;> rw [hmade] at habove
          · split
            · exact habove.trans (addsDirectories_makeDirectory ‹_›)
            · exact habove
          · exact habove
      · exact .refl fs

/-- Making the directories above a path adds directories and nothing else. -/
lemma addsDirectories_makeParents (fs : FileSystem) (path : String) :
    AddsDirectories fs (fs.makeParents path).2 := by
  unfold makeParents
  split
  · split
    · exact .refl fs
    · exact addsDirectories_makeChain fs _ _
  · exact .refl fs

end FileSystem

end TableShell
