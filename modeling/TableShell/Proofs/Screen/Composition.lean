import TableShell.Proofs.Editor.Reachability
import TableShell.Proofs.Text.Lines
import TableShell.Screen

/-!
# What a frame shows

A frame shows a prompt, the line of an editor behind it, and a suggestion behind the line. While
candidates are tried, the candidate in the line is set off. This module says that in terms of the
texts that a frame shows in a style, and proves it for every editor that a session passes through.

The candidate is found in the line by two bytes, the start of the word that it replaces and the
cursor. That these two cut out the candidate is what the consistency of the editor is needed for:
the line that was typed, cut at the start of the word and at its own cursor, has the candidate in
between.
-/

namespace TableShell

/-! ### Places in the line -/

namespace Editor

variable {e : Editor} {c : Cycle}

/-- The bytes at which a frame cuts the line are boundaries of it, and the candidate that is set off
does not end before it starts. -/
structure CutAtBoundaries (e : Editor) : Prop where
  cursor : Text.Boundary e.line.cursor e.line.text.toList
  cycled : ∀ start stop, e.cycledRange? = some (start, stop) →
    start ≤ stop ∧ ∀ byte ∈ [start, stop], Text.Boundary byte e.line.text.toList

/-- While candidates are tried, the line is cut into the text before the current candidate, the
candidate with the cursor behind it, and the rest. -/
lemma Consistent.exists_parts (h : e.Consistent) (hcycle : e.cycle? = some c) :
    ∃ head candidate tail, c.candidates[c.index]? = some candidate ∧
      e.line = (Zipper.mk (head ++ candidate.toList) tail).line ∧
      c.replaceFrom = Text.byteLength head := by
  have hshows := (h.cycling c hcycle).2
  obtain ⟨head, typed, right, htyped, hfrom⟩ := hshows.exists_typed_eq
  have htext := hshows.text_eq
  have hcursor := hshows.cursor_eq
  have hindex := hshows.index_lt
  rw [htyped, hfrom, Zipper.line_text, Zipper.line_cursor, String.toList_ofList,
    Text.fromByte_byteLength_append, List.append_assoc, Text.beforeByte_byteLength_append] at htext
  refine ⟨head, c.candidates[c.index], right, List.getElem?_eq_getElem hindex, ?_, hfrom⟩
  refine (LineBuffer.mk.injEq ..).mpr ⟨?_, ?_⟩
  · rw [htext, String.ofList_append, String.ofList_append, String.ofList_toList]
  · rw [hcursor, hfrom, Text.byteLength_append, Text.byteLength_toList]

/-- The line of a consistent editor can be cut where a frame cuts it. -/
lemma Consistent.cutAtBoundaries (h : e.Consistent) : e.CutAtBoundaries := by
  refine ⟨h.sound, ?_⟩
  intro start stop hrange
  obtain ⟨cycle, hcycle, heq⟩ := Option.map_eq_some_iff.mp hrange
  obtain ⟨rfl, rfl⟩ := Prod.mk.inj heq
  obtain ⟨head, candidate, tail, -, hline, hfrom⟩ := h.exists_parts hcycle
  have hstart : Text.Boundary cycle.replaceFrom e.line.text.toList := by
    rw [hline, hfrom, Zipper.line_text, String.toList_ofList, List.append_assoc]
    exact Text.boundary_append _ _
  refine ⟨?_, ?_⟩
  · rw [hline, hfrom, Zipper.line_cursor, Text.byteLength_append]
    exact Nat.le_add_right _ _
  · intro byte hbyte
    simp only [List.mem_cons, List.not_mem_nil, or_false] at hbyte
    rcases hbyte with rfl | rfl
    · exact hstart
    · exact h.sound

end Editor

/-! ### Texts in a style -/

namespace Frame

/-- The text that spans show in the styles of a kind. -/
def textIn (kind : Style → Bool) (spans : List Span) : String :=
  "".intercalate ((spans.filter fun span => kind span.style).map Span.text)

variable {kind : Style → Bool}

/-- Without spans no text is shown. -/
lemma textIn_nil : textIn kind [] = "" := rfl

/-- The first span shows its text if its style is of the kind. -/
lemma textIn_cons (span : Span) (spans : List Span) :
    textIn kind (span :: spans) =
      (if kind span.style then span.text else "") ++ textIn kind spans := by
  rw [← String.toList_inj, String.toList_append, textIn, textIn, Text.toList_intercalate_empty,
    Text.toList_intercalate_empty, List.filter_cons]
  split
  · rfl
  · rfl

/-- Spans side by side show their texts one after the other. -/
lemma textIn_append (spans more : List Span) :
    textIn kind (spans ++ more) = textIn kind spans ++ textIn kind more := by
  induction spans with
  | nil => rw [List.nil_append, textIn_nil, String.empty_append]
  | cons span spans ih => rw [List.cons_append, textIn_cons, textIn_cons, ih, String.append_assoc]

/-- Spans without a text show nothing. -/
lemma textIn_filter_isEmpty (spans : List Span) :
    textIn kind (spans.filter fun span => !span.text.isEmpty) = textIn kind spans := by
  induction spans with
  | nil => rfl
  | cons span spans ih =>
    rw [List.filter_cons]
    split
    · rw [textIn_cons, textIn_cons, ih]
    · next hempty =>
      have htext : span.text = "" := by simpa using hempty
      rw [textIn_cons, ih, htext, ite_self, String.empty_append]

/-! ### Frames of an editor -/

variable {e : Editor} {c : Cycle}

/-- A frame shows a prompt and an editor. Its spans all have a text, and the suggestion is the last
of them. The other ones make up the prompt and the line; those that are set off make up the
candidate that is tried, if there is one. The cursor stands behind the prompt and the text before
it. -/
structure Depicts [ColumnWidths] (f : Frame) (e : Editor) (prompt : String) : Prop where
  text_ne : ∀ span ∈ f.spans, span.text ≠ ""
  line_eq : textIn (· != .ghost) f.spans = prompt ++ e.line.text
  highlight_idle : e.cycle? = none → textIn (· == .highlight) f.spans = ""
  highlight_cycling : ∀ c, e.cycle? = some c →
    c.candidates[c.index]? = some (textIn (· == .highlight) f.spans)
  ghost_last : ∃ front ghosts, f.spans = front ++ ghosts ∧ (∀ span ∈ front, span.style ≠ .ghost) ∧
    (∀ span ∈ ghosts, span.style = .ghost) ∧
      "".intercalate (ghosts.map Span.text) = (e.ghost?).getD ""
  cursorColumn_eq : ∃ before after, e.line.text = before ++ after ∧
    before.utf8ByteSize = e.line.cursor ∧
      f.cursorColumn = ColumnWidths.text prompt + ColumnWidths.text before

/-- No part of the line is shown as a suggestion. -/
lemma style_of_mem_lineSpans {span : Span} (h : span ∈ lineSpans e) : span.style ≠ .ghost := by
  unfold lineSpans at h
  dsimp only at h
  split at h
  · simp only [List.mem_cons, List.not_mem_nil, or_false] at h
    rcases h with rfl | rfl | rfl <;> simp
  · rw [List.mem_singleton.mp h]
    simp

/-- While candidates are tried, the line is shown in the three parts that it is cut into. -/
lemma lineSpans_of_cycle? (h : e.Consistent) (hcycle : e.cycle? = some c) :
    ∃ head candidate tail, c.candidates[c.index]? = some candidate ∧
      e.line.text = .ofList head ++ candidate ++ .ofList tail ∧
      lineSpans e =
        [⟨.ofList head, .normal⟩, ⟨candidate, .highlight⟩, ⟨.ofList tail, .normal⟩] := by
  obtain ⟨head, candidate, tail, hcandidate, hline, hfrom⟩ := h.exists_parts hcycle
  have hrange : e.cycledRange? =
      some (Text.byteLength head, Text.byteLength (head ++ candidate.toList)) := by
    rw [Editor.cycledRange?, hcycle, Option.map_some, hfrom, hline, Zipper.line_cursor]
  refine ⟨head, candidate, tail, hcandidate, ?_, ?_⟩
  · rw [hline, Zipper.line_text, String.ofList_append, String.ofList_append, String.ofList_toList]
  · unfold lineSpans
    simp only [hrange, hline, Zipper.line_text, Text.sliceBytes_byteLength_append,
      Text.dropBytes_byteLength_append, String.ofList_toList]
    rw [List.append_assoc, Text.takeBytes_byteLength_append]

/-- If no candidate is tried, nothing of the line is set off. -/
lemma lineSpans_of_cycle?_eq_none (hcycle : e.cycle? = none) :
    lineSpans e = [⟨e.line.text, .normal⟩] := by
  unfold lineSpans Editor.cycledRange?
  rw [hcycle]
  rfl

/-- What is not a suggestion makes up the line. -/
lemma textIn_lineSpans (h : e.Consistent) : textIn (· != .ghost) (lineSpans e) = e.line.text := by
  cases hcycle : e.cycle? with
  | none => simp [lineSpans_of_cycle?_eq_none hcycle, textIn_cons, textIn_nil]
  | some c =>
    obtain ⟨head, candidate, tail, -, htext, hspans⟩ := lineSpans_of_cycle? h hcycle
    simp [hspans, htext, textIn_cons, textIn_nil, String.append_assoc]

/-- The spans of a suggestion have its style. -/
lemma style_of_mem_ghostSpans {span : Span} (h : span ∈ ghostSpans e) : span.style = .ghost := by
  unfold ghostSpans at h
  split at h
  · rw [List.mem_singleton.mp h]
  · exact absurd h List.not_mem_nil

/-- Behind the line stands the suggestion, if there is one. -/
lemma intercalate_ghostSpans (e : Editor) :
    "".intercalate (((ghostSpans e).filter fun span => !span.text.isEmpty).map Span.text) =
      (e.ghost?).getD "" := by
  unfold ghostSpans
  cases e.ghost? with
  | none => rfl
  | some text =>
    by_cases hempty : text = ""
    · simp [hempty]
    · simp [hempty, String.intercalate_singleton]

/-- In styles of other kinds the spans of a suggestion show nothing. -/
lemma textIn_ghostSpans (hkind : kind .ghost = false) : textIn kind (ghostSpans e) = "" := by
  unfold ghostSpans
  split
  · simp [textIn_cons, textIn_nil, hkind]
  · rfl

/-- The texts that a frame shows are those of the prompt, the line and the suggestion. -/
lemma textIn_compose [ColumnWidths] (e : Editor) (prompt : String) :
    textIn kind (compose e prompt).spans =
      (if kind .normal then prompt else "") ++
        (textIn kind (lineSpans e) ++ textIn kind (ghostSpans e)) := by
  unfold compose
  simp only
  rw [textIn_filter_isEmpty, List.cons_append, textIn_cons, textIn_append]

/-- In every session, whatever the prompt is: the line of the editor can be cut where the frame of
the editor cuts it, and this frame shows the prompt and the editor. -/
theorem depicts_compose [ColumnWidths] (h : Editor.Reachable e) (prompt : String) :
    e.CutAtBoundaries ∧ (compose e prompt).Depicts e prompt := by
  have hconsistent := h.invariant.1
  refine ⟨hconsistent.cutAtBoundaries, ?_, ?_, ?_, ?_, ?_, ?_⟩
  · intro span hspan
    have hshown := (List.mem_filter.mp hspan).2
    simpa using hshown
  · rw [textIn_compose, textIn_lineSpans hconsistent, textIn_ghostSpans rfl, String.append_empty]
    rfl
  · intro hcycle
    rw [textIn_compose, textIn_ghostSpans rfl, lineSpans_of_cycle?_eq_none hcycle]
    simp [textIn_cons, textIn_nil]
  · intro c hcycle
    obtain ⟨head, candidate, tail, hcandidate, -, hspans⟩ := lineSpans_of_cycle? hconsistent hcycle
    rw [textIn_compose, textIn_ghostSpans rfl, hspans, hcandidate]
    simp [textIn_cons, textIn_nil]
  · let shown (spans : List Span) := spans.filter fun span => !span.text.isEmpty
    refine ⟨shown ({ text := prompt, style := .normal } :: lineSpans e), shown (ghostSpans e),
      List.filter_append _ _, ?_, ?_, ?_⟩
    · intro span hspan
      rcases List.mem_cons.mp (List.mem_filter.mp hspan).1 with rfl | hline
      · simp
      · exact style_of_mem_lineSpans hline
    · intro span hspan
      exact style_of_mem_ghostSpans (List.mem_filter.mp hspan).1
    · exact intercalate_ghostSpans e
  · obtain ⟨⟨left, right⟩, hline⟩ := Zipper.exists_line_eq hconsistent.sound
    refine ⟨.ofList left, .ofList right, ?_, ?_, ?_⟩
    · rw [hline, Zipper.line_text, String.ofList_append]
    · rw [hline, Zipper.line_cursor, Text.utf8ByteSize_ofList]
    · unfold compose
      simp only [hline, Zipper.line_text, Zipper.line_cursor, Text.takeBytes_byteLength_append]

/-- In particular a file that is tried between a blank and a letter is set off, behind a prompt with
a wide character in it. -/
theorem depicts_compose_tryingFile :
    Editor.Reachable Editor.tryingFile ∧ Editor.tryingFile.CutAtBoundaries ∧
      (compose Editor.tryingFile "日> ").Depicts Editor.tryingFile "日> " ∧
      compose Editor.tryingFile "日> " = {
        spans := [⟨"日> ", .normal⟩, ⟨"cat ", .normal⟩, ⟨"été", .highlight⟩, ⟨"é", .normal⟩]
        cursorColumn := 11 } := by
  have hreachable := Editor.reachable_tryingFile
  obtain ⟨hcut, hdepicts⟩ := depicts_compose hreachable "日> "
  exact ⟨hreachable, hcut, hdepicts, by decide +kernel⟩

end Frame

end TableShell
