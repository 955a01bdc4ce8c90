import Mathlib.Data.List.Forall2
import Mathlib.Order.Monotone.Basic
import TableShell.Table.Layout
import TableShell.Proofs.Text.Trimming

/-!
# Printed columns

A printed table can be cut into its columns again. Every column is as wide as the widest text in
it, and there are two spaces between a column and the next one, so the columns begin at the same
place in all lines. What stands there in a line is the text of the header or of the cell, with
blanks around it.

The lines of the table are trimmed at their right ends. So a line is looked at with all that was
trimmed and with two spaces behind the last column as well: then every column is a piece of its
width and two spaces, and a line only lacks blanks at its end.
-/

namespace TableShell.Table

variable {t : Table} {pieces : List (List Char)} {piece cs : List Char} {i : Nat}

/-! ### Columns -/

/-- The texts in a column: its name and the texts of its cells. -/
def columnTexts (t : Table) (i : Nat) : List String :=
  t.headers[i]?.toList ++ t.rows.filterMap fun row => row[i]?.map Cell.display

/-- The width of a column: the largest number of characters of a text in it. -/
def columnWidth (t : Table) (i : Nat) : Nat :=
  ((t.columnTexts i).map String.length).max?.getD 0

/-- The place at which a column begins: behind the columns before it and two spaces after each. -/
def columnStart (t : Table) : Nat → Nat
  | 0 => 0
  | i + 1 => t.columnStart i + t.columnWidth i + 2

/-- What stands in a line under a column, as far as the line reaches. -/
def columnCut (t : Table) (i : Nat) (cs : List Char) : List Char :=
  (cs.drop (t.columnStart i)).take (t.columnWidth i)

/-- The two places before each column but the first hold spaces, as far as the line reaches. -/
def Gapped (t : Table) (line : String) : Prop :=
  ∀ i < t.headers.length, 0 < i → ∀ p, t.columnStart i ≤ p + 2 → p < t.columnStart i →
    ∀ c, line.toList[p]? = some c → c = ' '

/-- Texts stand in a line under their columns, with spaces between the columns. -/
structure AlignedLine (t : Table) (line : String) (texts : List String) : Prop where
  gapped : t.Gapped line
  trim_cut : ∀ i text, texts[i]? = some text →
    Text.trimChars (t.columnCut i line.toList) = Text.trimChars text.toList

/-! ### Widths -/

/-- No text of a column is longer than the column is wide. -/
lemma length_le_columnWidth {text : String} (h : text ∈ t.columnTexts i) :
    text.length ≤ t.columnWidth i := by
  have hmem : text.length ∈ (t.columnTexts i).map String.length := List.mem_map_of_mem h
  cases hmax : ((t.columnTexts i).map String.length).max? with
  | none =>
    rw [List.max?_eq_none_iff.mp hmax] at hmem
    cases hmem
  | some w =>
    rw [columnWidth, hmax]
    exact (List.max?_eq_some_iff.mp hmax).2 _ hmem

/-- No header is longer than its column is wide. -/
lemma length_header_le {header : String} (h : t.headers[i]? = some header) :
    header.length ≤ t.columnWidth i := by
  apply length_le_columnWidth
  rw [columnTexts, h]
  exact List.mem_cons_self

/-- No shown cell is longer than its column is wide. -/
lemma length_display_le {row : Row} {text : String} (hrow : row ∈ t.rows)
    (h : (row.map Cell.display)[i]? = some text) : text.length ≤ t.columnWidth i := by
  apply length_le_columnWidth
  rw [List.getElem?_map] at h
  exact List.mem_append_right _ (List.mem_filterMap.mpr ⟨row, hrow, h⟩)

/-- A row widens each column for itself, so the rows together make it as wide as its widest text. -/
lemma getElem?_foldl_widen {widen : List Nat → Row → List Nat}
    (hwiden : ∀ widths row, (widen widths row)[i]? =
      widths[i]?.map fun w => (row[i]?.map Cell.display).elim w fun text => max w text.length)
    (rows : List Row) (widths : List Nat) :
    (rows.foldl widen widths)[i]? =
      widths[i]?.map fun w =>
        ((rows.filterMap fun row => row[i]?.map Cell.display).map String.length).foldl max w := by
  induction rows generalizing widths with
  | nil => simp
  | cons row rows ih =>
    rw [List.foldl_cons, ih, hwiden, Option.map_map]
    congr 1
    funext w
    cases hcell : row[i]? with
    | none => simp [hcell]
    | some cell => simp [hcell]

/-- The widths that the layout uses are the widths of the columns. -/
lemma columnWidths_eq (t : Table) :
    t.columnWidths = (List.range t.headers.length).map t.columnWidth := by
  refine List.ext_getElem? ?_
  intro i
  have hfold : t.columnWidths[i]? = (t.headers.map fun header => header.toList.length)[i]?.map
      fun w =>
        ((t.rows.filterMap fun row => row[i]?.map Cell.display).map String.length).foldl max w := by
    refine getElem?_foldl_widen ?_ t.rows _
    intro widths row
    rw [List.getElem?_mapIdx]
    congr 1
    funext w
    cases row[i]? with
    | none => rfl
    | some cell => exact congrArg (max w) String.length_toList
  rw [hfold, List.getElem?_map, List.getElem?_map]
  rcases lt_or_ge i t.headers.length with hi | hi
  · rw [List.getElem?_range hi, Option.map_some, columnWidth, columnTexts,
      List.getElem?_eq_getElem hi, Option.toList_some, List.singleton_append, List.map_cons,
      List.max?_cons']
    simp [String.length_toList]
  · simp [hi]

/-! ### Columns side by side -/

/-- Columns side by side, each with two spaces behind it. -/
def spread (pieces : List (List Char)) : List Char :=
  pieces.flatMap (· ++ [' ', ' '])

/-- The pieces of a line, each filled up to the width of its column. -/
structure Fits (t : Table) (pieces : List (List Char)) : Prop where
  length_eq : pieces.length = t.headers.length
  width_eq : ∀ i piece, pieces[i]? = some piece → piece.length = t.columnWidth i

/-- Joined columns only lack the two spaces at their end. -/
lemma spread_eq_intercalate (hne : pieces ≠ []) :
    spread pieces = [' ', ' '].intercalate pieces ++ [' ', ' '] := by
  unfold spread
  induction pieces with
  | nil => exact absurd rfl hne
  | cons piece others ih =>
    cases others with
    | nil => simp
    | cons next others =>
      rw [List.flatMap_cons, ih (List.cons_ne_nil _ _), List.intercalate_cons_cons]
      simp

/-- The columns before one, the column itself with two spaces, and the columns behind it. -/
lemma spread_eq_of_getElem? (h : pieces[i]? = some piece) :
    spread pieces = spread (pieces.take i) ++ (piece ++ [' ', ' '] ++
      spread (pieces.drop (i + 1))) := by
  obtain ⟨hi, rfl⟩ := List.getElem?_eq_some_iff.mp h
  have hsplit : pieces = pieces.take i ++ pieces[i] :: pieces.drop (i + 1) := by simp
  conv_lhs => rw [hsplit]
  rw [spread, List.flatMap_append, List.flatMap_cons]
  rfl

namespace Fits

/-- There is a piece for each column. -/
lemma exists_getElem? (h : t.Fits pieces) (hi : i < t.headers.length) :
    ∃ piece, pieces[i]? = some piece := by
  rw [← h.length_eq] at hi
  exact ⟨_, List.getElem?_eq_getElem hi⟩

/-- Each column begins at its place. -/
lemma length_spread_take (h : t.Fits pieces) (hi : i ≤ t.headers.length) :
    (spread (pieces.take i)).length = t.columnStart i := by
  induction i with
  | zero => rfl
  | succ i ih =>
    obtain ⟨piece, hpiece⟩ := h.exists_getElem? (Nat.lt_of_succ_le hi)
    have hbefore := ih (Nat.le_of_succ_le hi)
    unfold spread at hbefore ⊢
    rw [List.take_add_one, hpiece, List.flatMap_append, List.length_append, hbefore, columnStart,
      ← h.width_eq i piece hpiece]
    simp [Nat.add_assoc]

/-- Under a column stands its piece. -/
lemma columnCut_spread (h : t.Fits pieces) (hpiece : pieces[i]? = some piece) :
    t.columnCut i (spread pieces) = piece := by
  have hi : i < t.headers.length := by
    rw [← h.length_eq]
    exact (List.getElem?_eq_some_iff.mp hpiece).1
  rw [spread_eq_of_getElem? hpiece, columnCut, List.drop_left' (h.length_spread_take hi.le),
    List.append_assoc, List.take_left' (h.width_eq i piece hpiece)]

/-- In front of a column stand two spaces. -/
lemma getElem?_spread (h : t.Fits pieces) (hi : i + 1 < t.headers.length) {p : Nat}
    (hlow : t.columnStart (i + 1) ≤ p + 2) (hhigh : p < t.columnStart (i + 1)) :
    (spread pieces)[p]? = some ' ' := by
  obtain ⟨piece, hpiece⟩ := h.exists_getElem? (Nat.lt_of_succ_lt hi)
  have hwidth := h.width_eq i piece hpiece
  have hbefore := h.length_spread_take (Nat.lt_of_succ_lt hi).le
  rw [columnStart] at hlow hhigh
  rw [spread_eq_of_getElem? hpiece, List.append_assoc, ← List.append_assoc (spread _),
    List.getElem?_append_right (by simp; omega), List.getElem?_append_left (by simp; omega),
    List.length_append, hbefore, hwidth]
  obtain rfl | rfl : p = t.columnStart i + t.columnWidth i ∨
      p = t.columnStart i + t.columnWidth i + 1 := by omega
  · simp
  · simp

/-- All lines with pieces of the widths of the columns are as long. -/
lemma length_intercalate (h : t.Fits pieces) :
    ([' ', ' '].intercalate pieces).length = t.columnStart t.headers.length - 2 := by
  have hspread := h.length_spread_take le_rfl
  rw [← h.length_eq, List.take_length] at hspread
  rw [← h.length_eq]
  rcases eq_or_ne pieces [] with rfl | hne
  · rfl
  · rw [spread_eq_intercalate hne, List.length_append] at hspread
    rw [← hspread]
    simp

end Fits

/-! ### Lines -/

/-- A line holds pieces if there are only blanks behind it that it lacks. -/
def Holds (line : String) (pieces : List (List Char)) : Prop :=
  ∃ blanks, (∀ c ∈ blanks, Text.isBlank c = true) ∧ spread pieces = line.toList ++ blanks

/-- A line that is the joined pieces without blanks at the end holds the pieces. -/
lemma holds_of_intercalate_eq {line : String} {blanks : List Char}
    (hblanks : ∀ c ∈ blanks, Text.isBlank c = true)
    (h : [' ', ' '].intercalate pieces = line.toList ++ blanks) : Holds line pieces := by
  rcases eq_or_ne pieces [] with rfl | hne
  · exact ⟨blanks, hblanks, h⟩
  · refine ⟨blanks ++ [' ', ' '], ?_, by rw [spread_eq_intercalate hne, h, List.append_assoc]⟩
    intro c hc
    rcases List.mem_append.mp hc with hc | hc
    · exact hblanks c hc
    · obtain rfl : c = ' ' := by simpa using hc
      decide

/-- A line that holds pieces of the width of the columns has spaces between the columns. -/
lemma Fits.gapped {line : String} (h : t.Fits pieces) (hline : Holds line pieces) :
    t.Gapped line := by
  obtain ⟨blanks, -, hspread⟩ := hline
  intro i hi hpos p hlow hhigh c hc
  obtain ⟨i, rfl⟩ := Nat.exists_eq_add_of_lt hpos
  rw [Nat.zero_add] at hi hlow hhigh
  have hspace := h.getElem?_spread hi hlow hhigh
  obtain ⟨hp, -⟩ := List.getElem?_eq_some_iff.mp hc
  rw [hspread, List.getElem?_append_left hp, hc] at hspace
  exact Option.some.inj hspace

/-- Under a column stands its piece, perhaps without blanks at its end. -/
lemma Fits.trim_columnCut {line : String} (h : t.Fits pieces) (hline : Holds line pieces)
    (hpiece : pieces[i]? = some piece) :
    Text.trimChars (t.columnCut i line.toList) = Text.trimChars piece := by
  obtain ⟨blanks, hblanks, hspread⟩ := hline
  have hcut := h.columnCut_spread hpiece
  rw [hspread, columnCut, List.drop_append, List.take_append] at hcut
  rw [← hcut]
  symm
  apply Text.trimChars_append_blanks
  intro c hc
  exact hblanks c (List.mem_of_mem_drop (List.mem_of_mem_take hc))

/-! ### Lines of texts -/

/-- A text is filled up to the width of its column. -/
lemma length_alignText {width : Nat} {text : String} (h : text.length ≤ width) (right : Bool) :
    (alignText width right text).toList.length = width := by
  rw [← String.length_toList] at h
  cases right with
  | false => simp [alignText, Text.padRight, h]
  | true => simp [alignText, Text.padLeft, h]

/-- What a text is filled up with is trimmed again. -/
lemma trimChars_alignText (width : Nat) (right : Bool) (text : String) :
    Text.trimChars (alignText width right text).toList = Text.trimChars text.toList := by
  have hblanks (n : Nat) : ∀ c ∈ List.replicate n ' ', Text.isBlank c = true := by
    intro c hc
    rw [List.eq_of_mem_replicate hc]
    decide
  unfold alignText
  cases right with
  | false =>
    rw [if_neg (by decide), Text.padRight, String.toList_ofList]
    exact Text.trimChars_append_blanks _ (hblanks _)
  | true =>
    rw [if_pos rfl, Text.padLeft, String.toList_ofList]
    exact Text.trimChars_blanks_append _ (hblanks _)

/-- The pieces of which a line of texts is made. -/
def linePieces (t : Table) (texts : List String) : List (List Char) :=
  ((texts.zip (t.columnWidths.zip t.rightAligned)).map fun column =>
    alignText column.2.1 column.2.2 column.1).map String.toList

/-- A line of texts is its joined pieces without blanks at the end. -/
lemma toList_layoutLine (t : Table) (texts : List String) :
    (layoutLine t.columnWidths t.rightAligned texts).toList =
      Text.trimEndChars ([' ', ' '].intercalate (t.linePieces texts)) := by
  rw [layoutLine, Text.trimEnd, String.toList_ofList, String.toList_intercalate]
  rfl

variable {texts : List String} {text : String}

/-- The piece of a column is its text, moved to one side of the column. -/
lemma exists_getElem?_linePieces (hlength : texts.length = t.headers.length)
    (htext : texts[i]? = some text) :
    ∃ right, (t.linePieces texts)[i]? = some (alignText (t.columnWidth i) right text).toList := by
  obtain ⟨hi, -⟩ := List.getElem?_eq_some_iff.mp htext
  rw [hlength] at hi
  have haligned : t.rightAligned.length = t.headers.length := List.length_mapIdx
  obtain ⟨right, hright⟩ : ∃ right, t.rightAligned[i]? = some right :=
    ⟨_, List.getElem?_eq_getElem (haligned.symm ▸ hi)⟩
  have hwidth : t.columnWidths[i]? = some (t.columnWidth i) := by
    rw [columnWidths_eq, List.getElem?_map, List.getElem?_range hi, Option.map_some]
  have hzip : (texts.zip (t.columnWidths.zip t.rightAligned))[i]? =
      some (text, t.columnWidth i, right) :=
    List.getElem?_zip_eq_some.mpr ⟨htext, List.getElem?_zip_eq_some.mpr ⟨hwidth, hright⟩⟩
  refine ⟨right, ?_⟩
  rw [linePieces, List.getElem?_map, List.getElem?_map, hzip]
  rfl

/-- Texts that are not wider than their columns are filled up to pieces of their widths. -/
lemma fits_linePieces (hlength : texts.length = t.headers.length)
    (hwidth : ∀ i text, texts[i]? = some text → text.length ≤ t.columnWidth i) :
    t.Fits (t.linePieces texts) := by
  have hpieces : (t.linePieces texts).length = t.headers.length := by
    simp [linePieces, columnWidths_eq, rightAligned, hlength]
  refine ⟨hpieces, ?_⟩
  intro i piece hpiece
  obtain ⟨hi, -⟩ := List.getElem?_eq_some_iff.mp hpiece
  rw [hpieces, ← hlength] at hi
  have htext := List.getElem?_eq_getElem hi
  obtain ⟨right, heq⟩ := exists_getElem?_linePieces hlength htext
  obtain rfl := Option.some.inj (hpiece.symm.trans heq)
  exact length_alignText (hwidth i _ htext) right

/-- A line of texts that are not wider than their columns has them under the columns, and it is not
longer than the columns together. -/
lemma alignedLine_layoutLine (hlength : texts.length = t.headers.length)
    (hwidth : ∀ i text, texts[i]? = some text → text.length ≤ t.columnWidth i) :
    t.AlignedLine (layoutLine t.columnWidths t.rightAligned texts) texts ∧
      (layoutLine t.columnWidths t.rightAligned texts).length ≤
        t.columnStart t.headers.length - 2 := by
  have hfits := fits_linePieces hlength hwidth
  obtain ⟨blanks, hblanks, hline⟩ :=
    Text.exists_eq_trimEndChars ([' ', ' '].intercalate (t.linePieces texts))
  rw [← toList_layoutLine] at hline
  have hholds := holds_of_intercalate_eq hblanks hline
  refine ⟨⟨hfits.gapped hholds, ?_⟩, ?_⟩
  · intro i text htext
    obtain ⟨right, hpiece⟩ := exists_getElem?_linePieces hlength htext
    rw [hfits.trim_columnCut hholds hpiece, trimChars_alignText]
  · rw [← hfits.length_intercalate, hline, List.length_append, String.length_toList]
    exact Nat.le_add_right _ _

/-! ### The rule -/

/-- The pieces of which the rule is made. -/
def rulePieces (t : Table) : List (List Char) :=
  (List.range t.headers.length).map fun i => List.replicate (t.columnWidth i) '-'

/-- The piece of a column of the rule is a stroke as wide as the column. -/
lemma getElem?_rulePieces (hi : i < t.headers.length) :
    t.rulePieces[i]? = some (List.replicate (t.columnWidth i) '-') := by
  rw [rulePieces, List.getElem?_map, List.getElem?_range hi, Option.map_some]

/-- The pieces of the rule have the width of the columns. -/
lemma fits_rulePieces (t : Table) : t.Fits t.rulePieces := by
  have hpieces : t.rulePieces.length = t.headers.length := by simp [rulePieces]
  refine ⟨hpieces, ?_⟩
  intro i piece hpiece
  obtain ⟨hi, -⟩ := List.getElem?_eq_some_iff.mp hpiece
  rw [hpieces] at hi
  obtain rfl := Option.some.inj (hpiece.symm.trans (getElem?_rulePieces hi))
  exact List.length_replicate

/-- The rule is its joined pieces. -/
lemma toList_rule (t : Table) :
    ("  ".intercalate (t.columnWidths.map fun width =>
      .ofList (List.replicate width '-'))).toList = [' ', ' '].intercalate t.rulePieces := by
  rw [columnWidths_eq, String.toList_intercalate, List.map_map, List.map_map]
  congr 1
  refine List.map_congr_left ?_
  intro i _
  exact String.toList_ofList

/-- Later columns begin farther to the right. -/
lemma columnStart_mono (t : Table) : Monotone t.columnStart := by
  refine monotone_nat_of_le_succ ?_
  intro i
  rw [columnStart, Nat.add_assoc]
  exact Nat.le_add_right _ _

/-- In joined columns each column stands whole. -/
lemma Fits.columnCut_intercalate (h : t.Fits pieces) (hpiece : pieces[i]? = some piece) :
    t.columnCut i ([' ', ' '].intercalate pieces) = piece := by
  obtain ⟨hi, -⟩ := List.getElem?_eq_some_iff.mp hpiece
  have hne : pieces ≠ [] := List.ne_nil_of_length_pos (Nat.zero_lt_of_lt hi)
  have hcut := h.columnCut_spread hpiece
  have hreach : t.columnStart i + t.columnWidth i ≤ ([' ', ' '].intercalate pieces).length := by
    rw [h.length_eq] at hi
    have hnext := t.columnStart_mono (Nat.succ_le_of_lt hi)
    rw [Nat.succ_eq_add_one, columnStart] at hnext
    rw [h.length_intercalate]
    omega
  rw [spread_eq_intercalate hne, columnCut, List.drop_append_of_le_length (by omega),
    List.take_append_of_le_length (by rw [List.length_drop]; omega)] at hcut
  exact hcut

/-! ### Printed tables -/

/-- A table that has a cell for each column in every row is printed as a line of its headers, a rule
and a line for each row in turn. The headers and the texts of the cells stand under their columns
and nothing of them is lost but blanks at their ends; between the columns there are two spaces. The
rule has dashes under the columns, and no line is longer. A line is marked if it is that of a row
with a marked cell. -/
theorem layout_aligned (h : t.Rectangular) :
    ∃ header rule lines, t.layout = (header, false) :: (rule, false) :: lines ∧
      t.AlignedLine header t.headers ∧
      (t.Gapped rule ∧ ∀ i < t.headers.length,
        t.columnCut i rule.toList = List.replicate (t.columnWidth i) '-') ∧
      List.Forall₂
        (fun row line => t.AlignedLine line.1 (row.map Cell.display) ∧
          (line.2 = true ↔ ∃ cell ∈ row, cell.highlighted = true))
        t.rows lines ∧
      ∀ line ∈ t.layout, line.1.length ≤ rule.length := by
  have hrule := t.toList_rule
  have hfits := t.fits_rulePieces
  have hheader := alignedLine_layoutLine rfl fun i text => length_header_le (t := t)
  have hrow (row : Row) (hmem : row ∈ t.rows) :=
    alignedLine_layoutLine (t := t) ((List.length_map Cell.display).trans (h row hmem))
      fun i text => length_display_le hmem
  have hgaps := hfits.gapped (holds_of_intercalate_eq (List.forall_mem_nil _)
    (hrule.symm.trans (List.append_nil _).symm))
  refine ⟨_, _, _, rfl, hheader.1, ⟨hgaps, ?dashes⟩, ?rows, ?longest⟩
  case dashes =>
    intro i hi
    rw [hrule, hfits.columnCut_intercalate (getElem?_rulePieces hi)]
  case rows =>
    rw [List.forall₂_map_right_iff, List.forall₂_same]
    intro row hmem
    exact ⟨(hrow row hmem).1, List.any_eq_true⟩
  case longest =>
    rw [← String.length_toList, hrule, hfits.length_intercalate]
    intro line hline
    simp only [layout, List.mem_cons, List.mem_map] at hline
    rcases hline with rfl | rfl | ⟨row, hmem, rfl⟩
    · exact hheader.2
    · rw [← String.length_toList, hrule, hfits.length_intercalate]
    · exact (hrow row hmem).2

/-- A table with a column that is aligned on the left, one that is aligned on the right, and a name
that ends in a space. -/
def mixedTable : Table where
  headers := ["name", "size"]
  rows :=
    [[{ value := .text "a b " }, { value := .size "9 KB" }],
      [{ value := .text "größer" }, { value := .size "10.5 KB", highlighted := true }]]

/-- In particular the widths are counted in characters, and a space at the end of a text is not told
from those that it is filled up with. -/
theorem layout_aligned_mixedTable :
    mixedTable.Rectangular ∧
      mixedTable.layout = [("name       size", false), ("------  -------", false),
        ("a b        9 KB", false), ("größer  10.5 KB", true)] ∧
      ∃ header rule lines, mixedTable.layout = (header, false) :: (rule, false) :: lines ∧
        mixedTable.AlignedLine header ["name", "size"] := by
  have hrectangular : mixedTable.Rectangular := by simp [Rectangular, mixedTable]
  obtain ⟨header, rule, lines, hlayout, hheader, -⟩ := layout_aligned hrectangular
  exact ⟨hrectangular, by decide +kernel, header, rule, lines, hlayout, hheader⟩

end TableShell.Table
