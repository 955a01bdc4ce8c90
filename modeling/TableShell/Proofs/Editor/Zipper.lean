import TableShell.Editor.LineBuffer
import TableShell.Proofs.Text.Boundary
import TableShell.Proofs.Text.Trimming

/-!
# Lines as zippers

A line with a cursor on a boundary is a pair of texts, the characters before the cursor and those
behind it. Here every operation on such a line is said in terms of the two texts, without byte
offsets, and it is shown that `LineBuffer` does the same with its offsets. In particular no
operation on such a line cuts it off a boundary.
-/

namespace TableShell

/-- The characters before the cursor of a line and those behind it. -/
structure Zipper where
  left : List Char := []
  right : List Char := []
  deriving DecidableEq, Repr

namespace Zipper

/-- The line that a zipper stands for. -/
def line (z : Zipper) : LineBuffer where
  text := .ofList (z.left ++ z.right)
  cursor := Text.byteLength z.left

/-- Put a character at the end of the left text. -/
def insert (z : Zipper) (c : Char) : Zipper :=
  { z with left := z.left ++ [c] }

/-- Drop the last character of the left text. -/
def deleteBackward (z : Zipper) : Zipper :=
  { z with left := z.left.dropLast }

/-- Drop the first character of the right text. -/
def deleteForward (z : Zipper) : Zipper :=
  { z with right := z.right.tail }

/-- Drop all blanks from the end of the left text, and then all characters that are not blank. -/
def deleteWordBackward (z : Zipper) : Zipper :=
  { z with left := (z.left.rdropWhile Text.isBlank).rdropWhile fun c => !Text.isBlank c }

/-- Move the last character of the left text over to the right one. -/
def moveLeft (z : Zipper) : Zipper :=
  match z.left.getLast? with
  | some c => { left := z.left.dropLast, right := c :: z.right }
  | none => z

/-- Move the first character of the right text over to the left one. -/
def moveRight (z : Zipper) : Zipper :=
  match z.right with
  | c :: right => { left := z.left ++ [c], right }
  | [] => z

/-- Move everything to the right. -/
def moveHome (z : Zipper) : Zipper :=
  { left := [], right := z.left ++ z.right }

/-- Move everything to the left. -/
def moveEnd (z : Zipper) : Zipper :=
  { left := z.left ++ z.right, right := [] }

end Zipper

namespace LineBuffer

/-- The cursor stands on a boundary of the text. -/
def Sound (b : LineBuffer) : Prop :=
  Text.Boundary b.cursor b.text.toList

/-- The cursor of a sound line is not past its end. -/
lemma Sound.cursor_le {b : LineBuffer} (h : b.Sound) : b.cursor ≤ b.text.utf8ByteSize := by
  rw [← Text.byteLength_toList]
  exact h.le

/-- At the end of a text there is a boundary. -/
lemma sound_atEnd (text : String) : (atEnd text).Sound := by
  rw [Sound, atEnd, ← Text.byteLength_toList]
  exact Text.boundary_byteLength text.toList

/-- An operation on lines does to the image of a zipper what `f` does to the zipper. In particular
it has a result there. -/
def Realizes (change : LineBuffer → Option LineBuffer) (f : Zipper → Zipper) : Prop :=
  ∀ z : Zipper, change z.line = some (f z).line

end LineBuffer

namespace Zipper

/-! ### Sound lines -/

/-- The two halves make up the text of the line. -/
@[simp] lemma line_text (z : Zipper) : z.line.text = .ofList (z.left ++ z.right) := rfl

/-- The cursor stands behind the bytes of the left half. -/
@[simp] lemma line_cursor (z : Zipper) : z.line.cursor = Text.byteLength z.left := rfl

/-- Between two halves there is a boundary. -/
lemma sound_line (z : Zipper) : z.line.Sound :=
  ⟨z.left, z.right, by simp, rfl⟩

/-- The sound lines are the images of zippers. -/
lemma exists_line_eq {b : LineBuffer} (h : b.Sound) : ∃ z : Zipper, b = z.line := by
  obtain ⟨text, cursor⟩ := b
  obtain ⟨left, right, htext, hcursor⟩ := h
  refine ⟨⟨left, right⟩, ?_⟩
  simp only [line, ← htext, hcursor, String.ofList_toList]

/-- The parts that the cursor cuts a line into are the two texts. -/
lemma cutAtByte?_line (z : Zipper) :
    Text.cutAtByte? z.line.cursor z.line.text.toList = some (z.left, z.right) := by
  rw [line_text, line_cursor, String.toList_ofList, Text.cutAtByte?_byteLength_append]

/-- A line takes the bytes of its two halves. -/
lemma utf8ByteSize_line (z : Zipper) :
    z.line.text.utf8ByteSize = Text.byteLength (z.left ++ z.right) := by
  rw [line_text, Text.utf8ByteSize_ofList]

/-! ### Moving -/

/-- The text before the cursor is the left half. -/
lemma before?_line (z : Zipper) : z.line.before? = some z.left := by
  rw [LineBuffer.before?, cutAtByte?_line, Option.map_some]

/-- The text behind the cursor is the right half. -/
lemma after?_line (z : Zipper) : z.line.after? = some z.right := by
  rw [LineBuffer.after?, cutAtByte?_line, Option.map_some]

/-- The boundary before the cursor lies in front of the last character of the left half. -/
lemma previous?_line (z : Zipper) :
    z.line.previous? = some (Text.byteLength z.left.dropLast) := by
  rw [LineBuffer.previous?, before?_line]
  rfl

/-- The boundary behind the cursor lies behind the first character of the right half. -/
lemma next?_line (z : Zipper) :
    z.line.next? = some (Text.byteLength (z.left ++ z.right.take 1)) := by
  rw [LineBuffer.next?, after?_line]
  cases hright : z.right with
  | nil => simp [hright]
  | cons c right => simp

/-- Moving the cursor to the left takes a character from the left half to the right one. -/
lemma moveLeft?_line (z : Zipper) : z.line.moveLeft? = some z.moveLeft.line := by
  obtain ⟨left, right⟩ := z
  rw [LineBuffer.moveLeft?, previous?_line]
  rcases List.eq_nil_or_concat' left with rfl | ⟨left, c, rfl⟩
  · rfl
  · simp [moveLeft, line]

/-- Moving the cursor to the right takes a character from the right half to the left one. -/
lemma moveRight?_line (z : Zipper) : z.line.moveRight? = some z.moveRight.line := by
  obtain ⟨left, right⟩ := z
  rw [LineBuffer.moveRight?, next?_line]
  cases right with
  | nil => simp [moveRight, line]
  | cons c right => simp [moveRight, line]

/-- With the cursor at the start, the left half is empty. -/
lemma moveHome_line (z : Zipper) : z.line.moveHome = z.moveHome.line := rfl

/-- With the cursor at the end, the right half is empty. -/
lemma moveEnd_line (z : Zipper) : z.line.moveEnd = z.moveEnd.line := by
  rw [LineBuffer.moveEnd, utf8ByteSize_line]
  simp only [line, moveEnd, List.append_nil]

/-- The motion to the start does not fail, so it is realized as it is. -/
lemma realizes_moveHome : LineBuffer.Realizes (fun b => some b.moveHome) moveHome :=
  fun z => congrArg some z.moveHome_line

/-- The motion to the end does not fail, so it is realized as it is. -/
lemma realizes_moveEnd : LineBuffer.Realizes (fun b => some b.moveEnd) moveEnd :=
  fun z => congrArg some z.moveEnd_line

/-! Moving keeps the text. -/

/-- Moving to the left keeps the text. -/
lemma moveLeft_append (z : Zipper) :
    z.moveLeft.left ++ z.moveLeft.right = z.left ++ z.right := by
  obtain ⟨left, right⟩ := z
  rcases List.eq_nil_or_concat' left with rfl | ⟨left, c, rfl⟩
  · rfl
  · simp [moveLeft]

/-- Moving to the right keeps the text. -/
lemma moveRight_append (z : Zipper) :
    z.moveRight.left ++ z.moveRight.right = z.left ++ z.right := by
  obtain ⟨left, right⟩ := z
  cases right with
  | nil => rfl
  | cons c right => simp [moveRight]

/-- Moving to the start keeps the text. -/
lemma moveHome_append (z : Zipper) :
    z.moveHome.left ++ z.moveHome.right = z.left ++ z.right := rfl

/-- Moving to the end keeps the text. -/
lemma moveEnd_append (z : Zipper) : z.moveEnd.left ++ z.moveEnd.right = z.left ++ z.right := by
  simp [moveEnd]

/-! ### Editing -/

/-- A character is inserted at the end of the left half. -/
lemma insert?_line (z : Zipper) (c : Char) : z.line.insert? c = some (z.insert c).line := by
  rw [LineBuffer.insert?, cutAtByte?_line]
  simp [line, insert]

/-- Inserting a character is realized by the halves, whichever character it is. -/
lemma realizes_insert (c : Char) : LineBuffer.Realizes (·.insert? c) (·.insert c) :=
  fun z => z.insert?_line c

/-- The bytes between two boundaries are taken out as characters. -/
lemma without?_line (z : Zipper) (as bs rest : List Char) {start stop : Nat}
    (hline : z.left ++ z.right = as ++ bs ++ rest) (hstart : Text.byteLength as = start)
    (hstop : Text.byteLength (as ++ bs) = stop) :
    z.line.without? start stop = some (.ofList (as ++ rest)) := by
  have hhead : Text.cutAtByte? start (z.left ++ z.right) = some (as, bs ++ rest) :=
    Text.cutAtByte?_eq_some.mpr ⟨by rw [hline, List.append_assoc], hstart⟩
  have htail : Text.cutAtByte? stop (z.left ++ z.right) = some (as ++ bs, rest) :=
    Text.cutAtByte?_eq_some.mpr ⟨hline, hstop⟩
  have hle : start ≤ stop := by
    rw [← hstart, ← hstop, Text.byteLength_append]
    exact Nat.le_add_right _ _
  rw [LineBuffer.without?, line_text, String.toList_ofList, hhead, htail]
  simp only [Option.bind_eq_bind, Option.bind_some, if_pos hle]

/-- Deleting backward takes the last character off the left half. -/
lemma deleteBackward?_line (z : Zipper) : z.line.deleteBackward? = some z.deleteBackward.line := by
  obtain ⟨left, right⟩ := z
  rcases List.eq_nil_or_concat' left with rfl | ⟨left, c, rfl⟩
  · rfl
  · have hpos : 0 < (Zipper.mk (left ++ [c]) right).line.cursor := by
      have := c.utf8Size_pos
      simp only [line_cursor, Text.byteLength_append, Text.byteLength_cons]
      omega
    have htext := without?_line ⟨left ++ [c], right⟩ left [c] right rfl rfl rfl
    rw [LineBuffer.deleteBackward?, if_pos hpos, previous?_line, List.dropLast_concat, line_cursor]
    simp only [Option.bind_eq_bind, Option.bind_some, htext]
    simp only [deleteBackward, List.dropLast_concat, line, Option.pure_def]

/-- Deleting forward takes the first character off the right half. -/
lemma deleteForward?_line (z : Zipper) : z.line.deleteForward? = some z.deleteForward.line := by
  obtain ⟨left, right⟩ := z
  rw [LineBuffer.deleteForward?, utf8ByteSize_line, next?_line]
  cases right with
  | nil => simp [deleteForward]
  | cons c right =>
    have hlt : Text.byteLength left < Text.byteLength (left ++ c :: right) := by
      have := c.utf8Size_pos
      simp only [Text.byteLength_append, Text.byteLength_cons]
      omega
    have htext := without?_line ⟨left, c :: right⟩ left [c] right (by simp) rfl rfl
    rw [line_cursor, if_pos hlt]
    simp only [Option.bind_eq_bind, Option.bind_some, List.take_succ_cons, List.take_zero, htext]
    simp only [deleteForward, List.tail_cons, line, Option.pure_def]

/-! ### Deleting a word -/

/-- The last run of characters that are not blank starts behind the last blank. -/
lemma lastWordStart_eq (text : List Char) :
    LineBuffer.lastWordStart text =
      Text.byteLength ((text.rdropWhile Text.isBlank).rdropWhile fun c => !Text.isBlank c) := by
  rw [LineBuffer.lastWordStart, Text.trimEndChars_eq]
  generalize text.rdropWhile Text.isBlank = trimmed
  cases hcut : Text.cutLastWhere Text.isBlank trimmed with
  | none =>
    have hnil : (trimmed.rdropWhile fun c => !Text.isBlank c) = [] := by
      rw [List.rdropWhile_eq_nil_iff]
      intro c hc
      simp [Text.cutLastWhere_eq_none.mp hcut c hc]
    simp [hnil]
  | some parts =>
    obtain ⟨before, after⟩ := parts
    obtain ⟨c, rfl, hc, hafter⟩ := Text.cutLastWhere_eq_some.mp hcut
    have hkeep : ((before ++ c :: after).rdropWhile fun c => !Text.isBlank c) = before ++ [c] := by
      rw [List.append_cons, Text.rdropWhile_append_of_all _ (by simpa using hafter),
        List.rdropWhile_concat_neg _ _ _ (by simp [hc])]
    simp [hkeep]

/-- Deleting a word backward takes the last word off the left half, with the blanks behind it. -/
lemma deleteWordBackward?_line (z : Zipper) :
    z.line.deleteWordBackward? = some z.deleteWordBackward.line := by
  obtain ⟨left, right⟩ := z
  have hprefix : (left.rdropWhile Text.isBlank).rdropWhile (fun c => !Text.isBlank c) <+: left :=
    (List.rdropWhile_prefix _ _).trans (List.rdropWhile_prefix _ _)
  obtain ⟨dropped, hdropped⟩ := hprefix
  have htext := without?_line ⟨left, right⟩ _ dropped right (by rw [hdropped]) rfl rfl
  rw [LineBuffer.deleteWordBackward?, before?_line]
  simp only [Option.bind_eq_bind, Option.bind_some, lastWordStart_eq, line_cursor]
  rw [hdropped] at htext
  rw [htext]
  rfl

/-! ### Replacing -/

/-- Replacing the end of the text before the cursor. -/
lemma replaceBack?_line (head typed right : List Char) (replacement : String) :
    (Zipper.mk (head ++ typed) right).line.replaceBack? (Text.byteLength head) replacement =
      some (Zipper.mk (head ++ replacement.toList) right).line := by
  have hstart : Text.cutAtByte? (Text.byteLength head) (head ++ typed ++ right) =
      some (head, typed ++ right) :=
    Text.cutAtByte?_eq_some.mpr ⟨List.append_assoc head typed right, rfl⟩
  rw [LineBuffer.replaceBack?, cutAtByte?_line, line_text, String.toList_ofList, hstart]
  simp [line, Text.byteLength_toList, String.append_assoc]

end Zipper

end TableShell
