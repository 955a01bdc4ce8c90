import TableShell.Command.Listing
import TableShell.Proofs.Filter.Results
import TableShell.Proofs.Size.Shown
import TableShell.Proofs.Text.Order

/-!
# Listings filtered by size

A listing holds the sizes of its entries as texts, and a filter on sizes compares the bytes for
which these texts stand. So it chooses the entries by their lengths as they are shown. Where that
makes a difference the length of an entry is near to the bound.
-/

namespace TableShell

/-! ### Entries -/

/-- The number of bytes of an entry; a directory counts none. -/
def Entry.byteLength (e : Entry) : Nat :=
  match e.node with
  | .file contents => contents.size
  | _ => 0

/-- The number of bytes for which the size of an entry stands in a listing. -/
def Entry.shownLength (e : Entry) : Nat :=
  Size.bytesOf (Size.format e.byteLength)

namespace Listing

variable {fs : FileSystem} {path literal : String} {names : List String} {n : Nat}

/-- The listing of entries with their names. -/
def ofEntries (entries : List (String × Entry)) : Table where
  headers := headers
  rows := entries.map fun p => row p.1 p.2

/-- The second cell of a row shows the size of the entry, and a directory counts as empty. -/
lemma row_size (name : String) (e : Entry) :
    (row name e)[1]? = some { value := .size (Size.format e.byteLength) } := by
  unfold row Entry.byteLength
  cases e.node <;> rfl

/-- A name that leads somewhere has a row. -/
lemma toOption_rowOf {name : String} {e : Entry}
    (h : fs.entryOf (joinPath path name) = .ok e) :
    (rowOf fs name (joinPath path name)).toOption = some (row name e) := by
  rw [rowOf, h]
  rfl

/-- Names that lead somewhere have a row each. -/
lemma exists_entries (hread : ∀ name ∈ names, ∃ e, fs.entryOf (joinPath path name) = .ok e) :
    ∃ entries : List (String × Entry), entries.map Prod.fst = names ∧
      (∀ p ∈ entries, fs.entryOf (joinPath path p.1) = .ok p.2) ∧
      names.filterMap (fun name => (rowOf fs name (joinPath path name)).toOption) =
        entries.map fun p => row p.1 p.2 := by
  induction names with
  | nil => exact ⟨[], rfl, by simp, rfl⟩
  | cons name names ih =>
    obtain ⟨e, he⟩ := hread name List.mem_cons_self
    obtain ⟨entries, hnames, hentries, hrows⟩ :=
      ih fun other hother => hread other (List.mem_cons_of_mem name hother)
    refine ⟨(name, e) :: entries, ?_, ?_, ?_⟩
    · rw [List.map_cons, hnames]
    · exact List.forall_mem_cons.mpr ⟨he, hentries⟩
    · simp only [List.filterMap_cons, toOption_rowOf he, hrows, List.map_cons]

/-- A directory whose entries can all be read is listed as these entries, by name. -/
lemma exists_listing_eq (hdirectory : fs.isDirectory path = true)
    (hnames : fs.namesOf path = .ok names)
    (hread : ∀ name ∈ names, ∃ e, fs.entryOf (joinPath path name) = .ok e) :
    ∃ entries : List (String × Entry), entries.map Prod.fst = Text.sortByName id names ∧
      (∀ p ∈ entries, fs.entryOf (joinPath path p.1) = .ok p.2) ∧
      listing fs path = .ok (ofEntries entries) := by
  have hread_sorted : ∀ name ∈ Text.sortByName id names,
      ∃ e, fs.entryOf (joinPath path name) = .ok e := by
    intro name hname
    exact hread name (Text.mem_sortByName.mp hname)
  obtain ⟨entries, hsorted, hentries, hrows⟩ := exists_entries hread_sorted
  refine ⟨entries, hsorted, hentries, ?_⟩
  rw [listing, if_pos hdirectory, hnames]
  dsimp only
  rw [rowsIn, hrows]
  rfl

/-! ### Sizes and bounds -/

/-- A condition on sizes chooses entries by the lengths that are shown. -/
lemma filterRows_size (hliteral : Size.parse? literal = some n) (op : CompareOp)
    (entries : List (String × Entry)) :
    (ofEntries entries).filterRows "Size" op.symbol literal =
      .ok (ofEntries (entries.filter fun p => op.accepts (compare p.2.shownLength n))) := by
  have hcol : (ofEntries entries).column? "Size" = some 1 := rfl
  have hsize : (ofEntries entries).isSizeColumn 1 = true := rfl
  have haccepts (p : String × Entry) : Table.cellAccepts op literal true 1 (row p.1 p.2) =
      op.accepts (compare p.2.shownLength n) := by
    rw [Table.cellAccepts, row_size]
    simp only [Cell.compareLiteral?, hliteral]
    rfl
  have hrows : (entries.map fun p => row p.1 p.2).filter (Table.cellAccepts op literal true 1) =
      (entries.filter fun p => op.accepts (compare p.2.shownLength n)).map
        fun p => row p.1 p.2 := by
    rw [List.filter_map]
    exact congrArg (List.map _) (List.filter_congr fun p _ => haccepts p)
  rw [Table.filterRows_of_column? hcol op.ofSymbol?_symbol, hsize]
  exact congrArg (fun rows => Except.ok (Table.mk headers rows)) hrows

/-- A number compares with a bound as one that is nearer to it than the bound does. -/
lemma compare_eq_of_near {a b n : Nat} {err : ℚ} (hnear : |(a : ℚ) - b| ≤ err)
    (hfar : err < |(b : ℚ) - n|) : compare a n = compare b n := by
  rw [abs_le] at hnear
  rcases lt_trichotomy b n with hlt | rfl | hgt
  · have hlt' : (b : ℚ) < n := Nat.cast_lt.mpr hlt
    rw [abs_of_neg (sub_neg.mpr hlt')] at hfar
    have hless : a < n := by exact_mod_cast (by linarith : (a : ℚ) < n)
    rw [compare_lt_iff_lt.mpr hlt, compare_lt_iff_lt.mpr hless]
  · rw [sub_self, abs_zero] at hfar
    linarith
  · have hgt' : (n : ℚ) < b := Nat.cast_lt.mpr hgt
    rw [abs_of_pos (sub_pos.mpr hgt')] at hfar
    have hmore : n < a := by exact_mod_cast (by linarith : (n : ℚ) < a)
    rw [compare_gt_iff_gt.mpr hgt, compare_gt_iff_gt.mpr hmore]

/-- A directory whose entries can all be read is listed as these entries, and a filter on sizes
keeps exactly the ones whose shown lengths stand in the relation to the bound. A shown length is
near to the length of its entry, so the length itself decides unless it is near to the bound. -/
theorem exists_listing_where_size {first : String} {more : List String}
    (hdirectory : fs.isDirectory path = true) (hnames : fs.namesOf path = .ok names)
    (hread : ∀ name ∈ names, ∃ e, fs.entryOf (joinPath path name) = .ok e)
    (hliteral : Size.parse? (" ".intercalate (first :: more)) = some n) :
    ∃ entries : List (String × Entry), entries.map Prod.fst = Text.sortByName id names ∧
      (∀ p ∈ entries, fs.entryOf (joinPath path p.1) = .ok p.2) ∧
      listing fs path = .ok (ofEntries entries) ∧
      (∀ op : CompareOp,
        Filter.runChain (ofEntries entries) [⟨"where", "Size" :: op.symbol :: first :: more⟩] =
          .ok (ofEntries (entries.filter fun p => op.accepts (compare p.2.shownLength n)))) ∧
      ∀ p ∈ entries, p.2.byteLength ≤ maxWord →
        |(p.2.shownLength : ℚ) - p.2.byteLength| ≤ Size.shownError p.2.byteLength ∧
          (p.2.byteLength < 2 ^ 10 ∨
              Size.shownError p.2.byteLength < |(p.2.byteLength : ℚ) - n| →
            compare p.2.shownLength n = compare p.2.byteLength n) := by
  obtain ⟨entries, hsorted, hentries, hlisting⟩ := exists_listing_eq hdirectory hnames hread
  refine ⟨entries, hsorted, hentries, hlisting, fun op => ?_, fun p _ hlength => ?_⟩
  · have hcol : (ofEntries entries).requireColumn "Size" = .ok 1 := rfl
    have hprocess :
        Filter.applyCondition (ofEntries entries) ("Size" :: op.symbol :: first :: more) =
          .ok (ofEntries (entries.filter fun p => op.accepts (compare p.2.shownLength n))) := by
      rw [Filter.applyCondition, hcol, op.ofSymbol?_symbol]
      exact filterRows_size hliteral op entries
    have hfind : Filter.find? "where" = some .condition := rfl
    exact Filter.runChain_singleton.trans (Filter.applyNamed_of_process hfind hprocess)
  · have hnear := Size.abs_bytesOf_format_sub_le hlength
    refine ⟨hnear, ?_⟩
    rintro (hsmall | hfar)
    · rw [Entry.shownLength, Size.bytesOf_format_of_lt hsmall]
    · exact compare_eq_of_near hnear hfar

/-! ### A file just above a bound -/

/-- A file that is a byte longer than one kilobyte. -/
def longerThanKilobyte : Entry := { node := .file (.zeros 1025) }

/-- A tree that holds this file and an empty directory. -/
def kilobyteTree : FileSystem where
  entries := [(["a"], longerThanKilobyte), (["b"], { node := .directory })]

/-- The root of the example is a directory. -/
lemma isDirectory_kilobyteTree : kilobyteTree.isDirectory "/" = true := by decide +kernel

/-- The root of the example holds two names. -/
lemma namesOf_kilobyteTree : kilobyteTree.namesOf "/" = .ok ["a", "b"] := by
  have hroot : kilobyteTree.resolve "/" true = .ok .root := by decide +kernel
  have hsorted : kilobyteTree.namesIn [] = ["a", "b"] := by
    apply List.mergeSort_of_pairwise (l := ["a", "b"])
    decide
  rw [FileSystem.namesOf, hroot, ← hsorted]
  rfl

/-- The first entry of the example is the file that is longer than a kilobyte, and the second one a
directory. -/
lemma entryOf_kilobyteTree : kilobyteTree.entryOf (joinPath "/" "a") = .ok longerThanKilobyte ∧
    kilobyteTree.entryOf (joinPath "/" "b") = .ok { node := .directory } := by
  decide +kernel

/-- The listing of the example has a row for the file and one for the directory. -/
lemma listing_kilobyteTree : listing kilobyteTree "/" =
    .ok (ofEntries [("a", longerThanKilobyte), ("b", { node := .directory })]) := by
  have hsorted : Text.sortByName id ["a", "b"] = ["a", "b"] := by
    rw [Text.sortByName, List.mergeSort_of_pairwise (by decide)]
    rfl
  rw [listing, if_pos isDirectory_kilobyteTree, namesOf_kilobyteTree]
  dsimp only
  simp only [rowsIn, hsorted, List.filterMap_cons, toOption_rowOf entryOf_kilobyteTree.1,
    toOption_rowOf entryOf_kilobyteTree.2]
  rfl

/-- In particular one kilobyte divides the entries of the tree as their shown lengths do. -/
theorem exists_listing_where_size_kilobyteTree :
    kilobyteTree.isDirectory "/" = true ∧ kilobyteTree.namesOf "/" = .ok ["a", "b"] ∧
      ∃ entries : List (String × Entry), entries.map Prod.fst = Text.sortByName id ["a", "b"] ∧
        (∀ p ∈ entries, kilobyteTree.entryOf (joinPath "/" p.1) = .ok p.2) ∧
        listing kilobyteTree "/" = .ok (ofEntries entries) ∧
        (∀ op : CompareOp,
          Filter.runChain (ofEntries entries) [⟨"where", ["Size", op.symbol, "1", "kb"]⟩] =
            .ok (ofEntries (entries.filter fun p => op.accepts (compare p.2.shownLength 1024)))) ∧
        ∀ p ∈ entries, p.2.byteLength ≤ maxWord →
          |(p.2.shownLength : ℚ) - p.2.byteLength| ≤ Size.shownError p.2.byteLength ∧
            (p.2.byteLength < 2 ^ 10 ∨
                Size.shownError p.2.byteLength < |(p.2.byteLength : ℚ) - (1024 : Nat)| →
              compare p.2.shownLength 1024 = compare p.2.byteLength 1024) := by
  have hliteral : Size.parse? (" ".intercalate ["1", "kb"]) = some 1024 := by decide +kernel
  have hread : ∀ name ∈ ["a", "b"], ∃ e, kilobyteTree.entryOf (joinPath "/" name) = .ok e := by
    simp [entryOf_kilobyteTree.1, entryOf_kilobyteTree.2]
  exact ⟨isDirectory_kilobyteTree, namesOf_kilobyteTree,
    exists_listing_where_size isDirectory_kilobyteTree namesOf_kilobyteTree hread hliteral⟩

/-- The file is not kept by a filter for what is longer than one kilobyte. -/
theorem where_size_drops_longer :
    kilobyteTree.isDirectory "/" = true ∧ kilobyteTree.namesOf "/" = .ok ["a", "b"] ∧
      (kilobyteTree.entryOf (joinPath "/" "a") = .ok longerThanKilobyte ∧
        kilobyteTree.entryOf (joinPath "/" "b") = .ok { node := .directory }) ∧
      Size.parse? "1kb" = some 1024 ∧
      CompareOp.gt.accepts (compare longerThanKilobyte.byteLength 1024) = true ∧
      ∃ t, listing kilobyteTree "/" = .ok t ∧ row "a" longerThanKilobyte ∈ t.rows ∧
        Filter.runChain t [⟨"where", ["Size", ">", "1kb"]⟩] = .ok t.emptied :=
  ⟨isDirectory_kilobyteTree, namesOf_kilobyteTree, entryOf_kilobyteTree, by decide +kernel, rfl, _,
    listing_kilobyteTree, List.mem_cons_self, by decide +kernel⟩

end Listing

end TableShell
