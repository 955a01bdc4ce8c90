import Mathlib.Data.List.Basic
import Mathlib.Tactic.Common
import TableShell.Text.Search

/-!
# Texts of lines

A text that is put together from lines has these lines, if none of them holds a line feed or ends in
a carriage return. The lines of any text hold no line feed.
-/

namespace TableShell.Text

/-! ### Pieces between separators -/

/-- Groups without separators are found again between the separators that are put behind them. -/
lemma splitOn_flatten_append {α : Type} [BEq α] [LawfulBEq α] {sep : α} {groups : List (List α)}
    {last : List α} (h : ∀ group ∈ groups ++ [last], sep ∉ group) :
    ((groups.map (· ++ [sep])).flatten ++ last).splitOn sep = groups ++ [last] := by
  induction groups with
  | nil => simpa using List.splitOn_eq_singleton (h last (by simp))
  | cons group groups ih =>
    have hrest := ih fun g hg => h g (List.mem_cons_of_mem _ hg)
    have hgroup : sep ∉ group := h group (by simp)
    rw [List.map_cons, List.flatten_cons, List.append_assoc, List.append_assoc,
      List.singleton_append, List.splitOn_append_cons_self_of_not_mem hgroup, hrest,
      List.cons_append]

/-- The pieces between separators hold none. -/
lemma notMem_of_mem_splitOn {α : Type} [BEq α] [LawfulBEq α] {sep : α} {xs piece : List α}
    (h : piece ∈ xs.splitOn sep) : sep ∉ piece := by
  induction xs generalizing piece with
  | nil => simp_all
  | cons x xs ih =>
    rw [List.splitOn_cons_eq_if_modifyHead] at h
    obtain ⟨first, rest, hsplit⟩ := List.exists_cons_of_ne_nil (List.splitOn_ne_nil sep xs)
    rw [hsplit] at h ih
    by_cases hx : x = sep
    · rw [if_pos (beq_iff_eq.mpr hx)] at h
      rcases List.mem_cons.mp h with rfl | h
      · exact List.not_mem_nil
      · exact ih h
    · rw [if_neg (by simpa using hx), List.modifyHead_cons] at h
      rcases List.mem_cons.mp h with rfl | h
      · have hfirst := ih List.mem_cons_self
        simp [Ne.symm hx, hfirst]
      · exact ih (List.mem_cons_of_mem _ h)

/-! ### Lines -/

/-- Lists that are joined with nothing between them stand one after the other. -/
lemma intercalate_nil_left {α : Type} (xs : List (List α)) : [].intercalate xs = xs.flatten := by
  induction xs with
  | nil => rfl
  | cons x xs ih =>
    cases xs with
    | nil => rw [List.intercalate_singleton, List.flatten_singleton]
    | cons y ys =>
      rw [List.intercalate_cons_cons, ih, List.append_nil]
      exact List.flatten_cons.symm

/-- What stands neither in the separator nor in the lists does not stand in what is put together
of them. -/
lemma notMem_intercalate {α : Type} {a : α} {sep : List α} {xs : List (List α)} (hsep : a ∉ sep)
    (hxs : ∀ x ∈ xs, a ∉ x) : a ∉ sep.intercalate xs := by
  induction xs with
  | nil => simp
  | cons x xs ih =>
    obtain ⟨hx, hxs⟩ := List.forall_mem_cons.mp hxs
    cases xs with
    | nil =>
      rw [List.intercalate_singleton]
      exact hx
    | cons y ys =>
      rw [List.intercalate_cons_cons, List.mem_append, List.mem_append, not_or, not_or]
      exact ⟨⟨hx, hsep⟩, ih hxs⟩

/-- Texts that are put together without a separator. -/
lemma toList_intercalate_empty (texts : List String) :
    ("".intercalate texts).toList = (texts.map String.toList).flatten := by
  rw [String.toList_intercalate]
  exact intercalate_nil_left _

/-- A line that comes back when it is written with a line feed behind it. -/
structure IsLine (cs : List Char) : Prop where
  no_feed : '\n' ∉ cs
  no_return : cs.getLast? ≠ some '\r'

/-- A line loses nothing where a carriage return would be dropped. -/
lemma dropCarriageReturn_of_isLine {cs : List Char} (h : IsLine cs) :
    dropCarriageReturn cs = cs := by
  unfold dropCarriageReturn
  rw [if_neg]
  intro hlast
  exact h.no_return (beq_iff_eq.mp hlast)

/-- Nothing behind the last line feed is no line. -/
lemma linesOfPieces_append_nil {ls : List (List Char)} (h : ∀ cs ∈ ls, IsLine cs) :
    linesOfPieces (ls ++ [[]]) = ls := by
  induction ls with
  | nil => rfl
  | cons cs ls ih =>
    have hcs := dropCarriageReturn_of_isLine (h cs List.mem_cons_self)
    have hrest := ih fun line hline => h line (List.mem_cons_of_mem _ hline)
    obtain ⟨piece, more, hmore⟩ := List.exists_cons_of_ne_nil (l := ls ++ [[]]) (by simp)
    rw [List.cons_append, hmore, linesOfPieces, hcs, ← hmore, hrest]
    simp

/-- The lines of a text that is written line by line. -/
theorem linesChars_flatten {ls : List (List Char)} (h : ∀ cs ∈ ls, IsLine cs) :
    linesChars (ls.map (· ++ ['\n'])).flatten = ls := by
  have hfeeds : ∀ cs ∈ ls ++ [[]], '\n' ∉ cs := by
    intro cs hcs
    rcases List.mem_append.mp hcs with hcs | hcs
    · exact (h cs hcs).no_feed
    · simp [List.mem_singleton.mp hcs]
  have hpieces := splitOn_flatten_append hfeeds
  rw [List.append_nil] at hpieces
  rw [linesChars, hpieces, linesOfPieces_append_nil h]

/-- Every line is a piece, perhaps without a carriage return at its end. -/
lemma exists_piece_of_mem_linesOfPieces {pieces : List (List Char)} {line : List Char}
    (h : line ∈ linesOfPieces pieces) : ∃ piece ∈ pieces, line ⊆ piece := by
  induction pieces with
  | nil => cases h
  | cons piece more ih =>
    cases more with
    | nil =>
      rw [linesOfPieces] at h
      split at h
      · cases h
      · obtain rfl := List.mem_singleton.mp h
        exact ⟨line, List.mem_cons_self, List.Subset.refl line⟩
    | cons next rest =>
      change line ∈ dropCarriageReturn piece :: linesOfPieces (next :: rest) at h
      rcases List.mem_cons.mp h with rfl | h
      · refine ⟨piece, List.mem_cons_self, ?_⟩
        unfold dropCarriageReturn
        split
        · exact List.dropLast_subset piece
        · exact List.Subset.refl piece
      · obtain ⟨found, hfound, hline⟩ := ih h
        exact ⟨found, List.mem_cons_of_mem _ hfound, hline⟩

/-- The lines of a text hold no line feed. -/
lemma notMem_of_mem_lines {text line : String} (h : line ∈ lines text) : '\n' ∉ line.toList := by
  obtain ⟨chars, hchars, rfl⟩ := List.mem_map.mp h
  obtain ⟨piece, hpiece, hsubset⟩ := exists_piece_of_mem_linesOfPieces hchars
  rw [String.toList_ofList]
  exact fun hfeed => notMem_of_mem_splitOn hpiece (hsubset hfeed)

/-- What is written line by line is read back line by line, if every line is a line and is read
as what it was written for. -/
theorem filterMap_lines_intercalate {α : Type} {line : α → String} {chars : α → List Char}
    {parse? : String → Option α} {xs : List α} (hline : ∀ x, (line x).toList = chars x ++ ['\n'])
    (hchars : ∀ x ∈ xs, IsLine (chars x)) (hparse : ∀ x ∈ xs, parse? (.ofList (chars x)) = some x) :
    (lines ("".intercalate (xs.map line))).filterMap parse? = xs := by
  have htext : ("".intercalate (xs.map line)).toList =
      ((xs.map chars).map (· ++ ['\n'])).flatten := by
    rw [toList_intercalate_empty, List.map_map, List.map_map]
    exact congrArg List.flatten (List.map_congr_left fun x _ => hline x)
  have hlines : linesChars ("".intercalate (xs.map line)).toList = xs.map chars := by
    rw [htext]
    exact linesChars_flatten (List.forall_mem_map.mpr hchars)
  unfold lines
  rw [hlines, List.map_map, List.filterMap_map]
  calc
    xs.filterMap (parse? ∘ (String.ofList ∘ chars)) = xs.filterMap some :=
      List.filterMap_congr hparse
    _ = xs := List.filterMap_some

end TableShell.Text
