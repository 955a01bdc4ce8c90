import TableShell.Proofs.FileSystem.Growth

/-!
# Writing files

A path name that opens a file for writing leads to that file from then on, as long as the tree only
grows: reading follows all pieces of the path name, where writing followed all but the last one and
then looked whether there was a link. So what is written under a path name is what is read under it,
and a file that is written twice is one file.
-/

namespace TableShell.FileSystem

variable {fs fs' : FileSystem} {path : String} {loc : Location} {p q : Place} {links left : Nat}

/-! ### Walks in two parts -/

/-- The pieces up to a stop are followed first. A link is met with more pieces behind it. -/
lemma advance_append {before after : List String} {stop : Place ⊕ Detour}
    (h : fs.advance {} p before = .ok stop) :
    fs.advance {} p (before ++ after) =
      stop.elim (fun place => fs.advance {} place after)
        fun detour => .ok (.inr { detour with rest := detour.rest ++ after }) := by
  induction before generalizing p with
  | nil =>
    obtain rfl : .inl p = stop := Except.ok.inj h
    rfl
  | cons name rest ih =>
    obtain ⟨next, hnext, h⟩ := bind_eq_ok.mp h
    obtain ⟨⟨⟩, hreach, h⟩ := bind_eq_ok.mp h
    rw [List.cons_append, advance, hnext]
    simp only [bind, Except.bind, hreach]
    split at h
    · cases h
    · simp only [Bool.not_true, Bool.and_false, Bool.false_eq_true, if_false] at h ⊢
      obtain rfl := Except.ok.inj h
      rfl
    · exact ih h

/-- A walk along two runs of pieces goes on where the walk along the first one ends. -/
lemma walk_append {before after : List String}
    (h : fs.walk {} links p before = .ok (q, left)) :
    fs.walk {} links p (before ++ after) = fs.walk {} left q after := by
  induction links generalizing p before with
  | zero =>
    unfold walk at h
    obtain ⟨stop, hstop, h⟩ := bind_eq_ok.mp h
    cases stop with
    | inl place =>
      obtain ⟨rfl, rfl⟩ := Prod.mk.inj (Except.ok.inj h)
      unfold walk
      rw [advance_append hstop, Sum.elim_inl]
    | inr detour => cases h
  | succ links ih =>
    unfold walk at h
    obtain ⟨stop, hstop, h⟩ := bind_eq_ok.mp h
    cases stop with
    | inl place =>
      obtain ⟨rfl, rfl⟩ := Prod.mk.inj (Except.ok.inj h)
      unfold walk
      rw [advance_append hstop, Sum.elim_inl]
    | inr detour =>
      obtain ⟨⟨⟩, hname, h⟩ := bind_eq_ok.mp h
      have hrest := ih h
      conv_lhs => unfold walk
      rw [advance_append hstop, Sum.elim_inr]
      simp only [bind, Except.bind, hname]
      rw [← List.append_assoc, hrest]

/-! ### The last piece -/

variable {holder place : Place} {last : String}

/-- A file at the end is where the walk ends. -/
lemma walk_file (hchild : fs.child holder last = .ok place) {contents : Contents}
    (hfile : fs.nodeAt? place = some (.file contents)) :
    fs.walk {} links holder [last] = .ok (place, links) := by
  have hstop : fs.advance {} holder [last] = .ok (.inl place) := by
    unfold advance
    rw [hchild]
    simp only [bind, Except.bind, checkReach, Bool.false_and, Bool.false_eq_true, if_false, hfile]
    rfl
  unfold walk
  rw [hstop]
  rfl

/-- A link at the end is followed. -/
lemma walk_link (hchild : fs.child holder last = .ok place) {target : String}
    (hlink : fs.nodeAt? place = some (.link target)) (hname : checkName target = .ok ()) :
    fs.walk {} (links + 1) holder [last] =
      fs.walk {} links (if (PathName.parse target).absolute then Place.root else holder)
        (PathName.parse target).steps := by
  have hstop :
      fs.advance {} holder [last] = .ok (.inr { holder, target, rest := [] }) := by
    unfold advance
    rw [hchild]
    simp only [bind, Except.bind, checkReach, Bool.false_and, Bool.false_eq_true, if_false, hlink]
    rfl
  conv_lhs => unfold walk
  rw [hstop]
  simp only [bind, Except.bind, hname, List.append_nil]

/-- A step to a name leads into the tree. -/
lemma lost_child (hhere : (last == ".") = false) (hup : (last == "..") = false)
    (hchild : fs.child p last = .ok place) : place.lost = [] := by
  unfold child at hchild
  rw [hhere, hup] at hchild
  simp only [Bool.false_eq_true, if_false] at hchild
  split at hchild
  · split at hchild
    · cases hchild
    · split at hchild
      · cases hchild
      · obtain rfl := Except.ok.inj hchild
        rfl
  · cases hchild

/-- What stands at a place that lost nothing is what stands at its location. -/
lemma nodeAt_of_lost_nil (h : place.lost = []) : fs.nodeAt? place = fs.node? place.live := by
  unfold nodeAt?
  rw [h]
  rfl

/-- What is named for writing is a name in a directory, and the path name leads through that
directory. -/
lemma exists_of_placeToWrite {start : Place} {name : PathName}
    (h : fs.placeToWrite links start name = .ok (holder, place, left)) :
    ∃ before last, name.steps = before ++ [last] ∧
      fs.walk {} links start before = .ok (holder, left) ∧
      fs.child holder last = .ok place ∧ place.lost = [] := by
  unfold placeToWrite at h
  split at h
  · cases h
  · next last hlast =>
    obtain ⟨before, hparts⟩ := List.getLast?_eq_some_iff.mp hlast
    rw [hparts, List.dropLast_concat] at h
    obtain ⟨⟨holder', left'⟩, hwalk, h⟩ := bind_eq_ok.mp h
    simp only at h
    split at h
    · cases h
    · split at h
      · cases h
      · next hplain =>
        obtain ⟨place', hchild, h⟩ := bind_eq_ok.mp h
        obtain ⟨rfl, rfl, rfl⟩ : holder' = holder ∧ place' = place ∧ left' = left := by
          simpa [pure, Except.pure] using h
        simp only [Bool.or_eq_true, not_or, Bool.not_eq_true] at hplain
        obtain ⟨⟨hhere, hup⟩, htrailing⟩ := hplain
        have hsteps : name.steps = before ++ [last] := by
          unfold PathName.steps
          rw [hparts, htrailing]
          exact List.append_nil _
        exact ⟨before, last, hsteps, hwalk, hchild, lost_child hhere hup hchild⟩

/-! ### The file that is opened -/

/-- Nothing but a file stands at a location. -/
def AtMostFile (fs : FileSystem) (loc : Location) : Prop :=
  ∀ n, fs.node? loc = some n → ∃ contents, n = .file contents

/-- The root is a directory. -/
lemma AtMostFile.ne_root (h : fs.AtMostFile loc) : loc ≠ [] := by
  rintro rfl
  obtain ⟨contents, hnode⟩ := h .directory rfl
  cases hnode

/-- A file is opened where the path name leads, or where a link leads that stands there. -/
lemma writeLocation_cases {turns : Nat} {start : Place} {name : PathName}
    (h : fs.writeLocation turns links start name = .ok loc) :
    ∃ holder place left, fs.placeToWrite links start name = .ok (holder, place, left) ∧
      (place.live = loc ∧ fs.AtMostFile loc ∨
        ∃ target turns' left', turns = turns' + 1 ∧ left = left' + 1 ∧
          fs.node? place.live = some (.link target) ∧ checkName target = .ok () ∧
          fs.writeLocation turns' left'
            (if (PathName.parse target).absolute then Place.root else holder)
            (PathName.parse target) = .ok loc) := by
  unfold writeLocation at h
  obtain ⟨⟨holder, place, left⟩, hplace, h⟩ := bind_eq_ok.mp h
  refine ⟨holder, place, left, hplace, ?_⟩
  simp only at h
  split at h
  · cases h
  · next target hlink =>
    cases turns with
    | zero => cases h
    | succ turns' =>
      cases left with
      | zero => cases h
      | succ left' =>
        obtain ⟨⟨⟩, hname, h⟩ := bind_eq_ok.mp h
        exact .inr ⟨target, turns', left', rfl, rfl, hlink, hname, h⟩
  · next hdirectory hlink =>
    obtain rfl := Except.ok.inj h
    refine .inl ⟨rfl, fun n hn => ?_⟩
    cases n with
    | directory => exact absurd hn hdirectory
    | link target => exact absurd hn (hlink target)
    | file contents => exact ⟨contents, rfl⟩

/-- Where a write ends up, there is a file or nothing. -/
lemma atMostFile_of_writeLocation {turns : Nat} {start : Place} {name : PathName}
    (h : fs.writeLocation turns links start name = .ok loc) : fs.AtMostFile loc := by
  induction turns using Nat.strongRecOn generalizing links start name with
  | _ turns ih =>
    obtain ⟨holder, place, left, -, hend⟩ := writeLocation_cases h
    rcases hend with ⟨-, hfree⟩ | ⟨target, turns', left', hturns, -, -, -, hnext⟩
    · exact hfree
    · exact ih turns' (by omega) hnext

/-- The walk along a path name that was opened for writing ends at the file that was opened, once
there is one. -/
lemma walk_of_writeLocation {turns : Nat} {start : Place} {name : PathName} {contents : Contents}
    (h : fs.writeLocation turns links start name = .ok loc) (hgrows : Grows fs fs')
    (hfile : fs'.node? loc = some (.file contents)) :
    ∃ left, fs'.walk {} links start name.steps = .ok ({ live := loc }, left) := by
  induction turns using Nat.strongRecOn generalizing links start name with
  | _ turns ih =>
    obtain ⟨holder, place, left, hplace, hend⟩ := writeLocation_cases h
    obtain ⟨before, last, hsteps, hwalk, hchild, hlost⟩ := exists_of_placeToWrite hplace
    rw [hsteps, walk_append (hgrows.walk hwalk)]
    rcases hend with ⟨rfl, -⟩ | ⟨target, turns', left', hturns, rfl, hlink, hname, hnext⟩
    · have hstop : fs'.nodeAt? place = some (.file contents) := by
        rw [nodeAt_of_lost_nil hlost, hfile]
      rw [walk_file (hgrows.child hchild) hstop, ← hlost]
      exact ⟨left, rfl⟩
    · have hstop : fs'.nodeAt? place = some (.link target) :=
        hgrows.link ((nodeAt_of_lost_nil hlost).trans hlink)
      rw [walk_link (hgrows.child hchild) hstop hname]
      exact ih turns' (by omega) hnext

/-- A path that can be written to leads to a file or to nothing. -/
lemma atMostFile_of_writable (h : fs.writable path = .ok loc) : fs.AtMostFile loc := by
  obtain ⟨⟨⟩, -, h⟩ := bind_eq_ok.mp h
  exact atMostFile_of_writeLocation h

/-- A path name that was opened for writing leads to the file that was opened, once there is
one. -/
lemma resolve_of_writable {contents : Contents} (h : fs.writable path = .ok loc)
    (hgrows : Grows fs fs') (hfile : fs'.node? loc = some (.file contents)) :
    fs'.resolve path true = .ok { live := loc } := by
  obtain ⟨⟨⟩, hname, h⟩ := bind_eq_ok.mp h
  obtain ⟨left, hwalk⟩ := walk_of_writeLocation h hgrows hfile
  rw [← hgrows.startOf] at hwalk
  unfold resolve
  rw [hname]
  simp only [bind, Except.bind, hwalk]
  rfl

/-- A file is put where there was a file or nothing. -/
lemma grows_put_file (h : fs.AtMostFile loc) (contents : Contents) (time : Int) :
    Grows fs (fs.put loc { node := .file contents, modified := time }) where
  here := rfl
  keeps l n hn := by
    rw [node?_put h.ne_root]
    by_cases hl : l = loc
    · obtain ⟨old, rfl⟩ := h n (hl ▸ hn)
      exact ⟨.file contents, if_pos hl, rfl⟩
    · exact ⟨n, (if_neg hl).trans hn, rfl⟩

/-- Replacing the contents of a file puts them where the path name opens a file. -/
lemma writeFile_cases {contents : Contents} (h : fs.writeFile path contents = .ok fs') :
    ∃ loc, fs.writable path = .ok loc ∧
      fs' = fs.put loc { node := .file contents, modified := fs.clock } := by
  obtain ⟨loc, hloc, h⟩ := bind_eq_ok.mp h
  exact ⟨loc, hloc, (Except.ok.inj h).symm⟩

/-- Extending a file puts its contents and the text where the path name opens a file. -/
lemma appendText_cases {text : String} (h : fs.appendText path text = .ok fs') :
    ∃ loc old, fs.writable path = .ok loc ∧
      (fs.node? loc = none ∧ old = .text "" ∨ fs.node? loc = some (.file old)) ∧
      fs' = fs.put loc { node := .file (old.append text), modified := fs.clock } := by
  obtain ⟨loc, hloc, h⟩ := bind_eq_ok.mp h
  cases hnode : fs.node? loc with
  | none =>
    simp only [hnode] at h
    exact ⟨loc, .text "", hloc, .inl ⟨hnode, rfl⟩, (Except.ok.inj h).symm⟩
  | some n =>
    obtain ⟨old, rfl⟩ := atMostFile_of_writable hloc n hnode
    simp only [hnode] at h
    exact ⟨loc, old, hloc, .inr hnode, (Except.ok.inj h).symm⟩

/-- Writing a file lets the tree grow. -/
lemma grows_writeFile {contents : Contents} (h : fs.writeFile path contents = .ok fs') :
    Grows fs fs' := by
  obtain ⟨loc, hloc, rfl⟩ := writeFile_cases h
  exact grows_put_file (atMostFile_of_writable hloc) _ _

/-- Appending to a file lets the tree grow. -/
lemma grows_appendText {text : String} (h : fs.appendText path text = .ok fs') :
    Grows fs fs' := by
  obtain ⟨loc, old, hloc, -, rfl⟩ := appendText_cases h
  exact grows_put_file (atMostFile_of_writable hloc) _ _

/-! ### What is read -/

/-- The text of a file is read through every path that leads to it. -/
lemma readText_of_resolve {text : String} (hp : fs.resolve path true = .ok { live := loc })
    (hfile : fs.node? loc = some (.file (.text text))) : fs.readText path = .ok text := by
  obtain ⟨e, he, hnode⟩ := Option.map_eq_some_iff.mp hfile
  unfold readText entryOf
  rw [hp]
  simp only [bind, Except.bind, List.isEmpty_nil, if_true, he, hnode, pure, Except.pure,
    Contents.asText?]

/-- A file that has been written under a path name is read under it. -/
lemma readText_of_writeFile {text : String} (h : fs.writeFile path (.text text) = .ok fs') :
    fs'.readText path = .ok text := by
  have hgrows := grows_writeFile h
  obtain ⟨loc, hloc, hput⟩ := writeFile_cases h
  have hfile : fs'.node? loc = some (.file (.text text)) := by
    rw [hput, node?_put (atMostFile_of_writable hloc).ne_root, if_pos rfl]
  exact readText_of_resolve (resolve_of_writable hloc hgrows hfile) hfile

/-- There is nothing to read where nothing stands. -/
lemma exists_readText_eq_error (h : ∀ p, fs.resolve path true = .ok p → fs.nodeAt? p = none) :
    ∃ e, fs.readText path = .error e := by
  cases hp : fs.resolve path true with
  | error e =>
    unfold readText entryOf
    rw [hp]
    exact ⟨e, rfl⟩
  | ok p =>
    have hnone := h p hp
    unfold nodeAt? at hnone
    split at hnone
    · next hlost =>
      unfold readText entryOf
      rw [hp]
      simp only [bind, Except.bind, hlost, if_true, Option.map_eq_none_iff.mp hnone]
      exact ⟨.notFound, rfl⟩
    · cases hnone

end TableShell.FileSystem
