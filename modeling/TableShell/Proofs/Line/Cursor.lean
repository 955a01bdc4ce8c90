import TableShell.Line.Context
import TableShell.Proofs.Fallible
import TableShell.Proofs.Line.Scanning

/-!
# The word at the cursor

The word and the argument at the cursor are ends of the text before it, where they can be told at
all. This module shows when they cannot: exactly if the last blank or bar before the cursor is a
blank of several bytes. The other places at which the text is cut, behind an open quote and behind
a path separator, are always boundaries.
-/

namespace TableShell

/-! ### Open quotes -/

namespace Line

/-- A scan counts the bytes that it has read. -/
lemma offset_scan (text : List Char) : (scan text).offset = Text.byteLength text := by
  induction text using List.reverseRecOn with
  | nil => rfl
  | append_singleton text c ih => simp [scan_concat, TokenScan.step, ih]

/-- A quote is left open, or opened at the current offset. -/
lemma TokenScan.quote?_take {s : TokenScan} {c : Char} {quote : Nat}
    (h : (s.take c).quote? = some quote) :
    s.quote? = some quote ∨ c = '"' ∧ s.offset = quote := by
  have hended := s.quote?_endWord
  rw [take] at h
  split at h
  · next hc =>
    split at h
    · exact absurd h (by simp)
    · exact .inr ⟨by simpa using hc, by simpa using h⟩
  · split at h
    · exact .inl (by simpa [hended] using h)
    · split at h
      · exact .inl (by simpa [hended] using h)
      · exact .inl h

/-- Where a quote is open, there is one. -/
lemma openQuote?_eq_some {text : List Char} {quote : Nat} (h : openQuote? text = some quote) :
    ∃ before after, text = before ++ '"' :: after ∧ Text.byteLength before = quote := by
  induction text using List.reverseRecOn with
  | nil => exact absurd h (by simp [openQuote?, scan])
  | append_singleton text c ih =>
    rw [openQuote?, scan_concat] at h
    rcases TokenScan.quote?_take h with hold | ⟨rfl, hoffset⟩
    · obtain ⟨before, after, rfl, hbefore⟩ := ih hold
      exact ⟨before, after ++ [c], by simp, hbefore⟩
    · exact ⟨text, [], rfl, by rw [← offset_scan, hoffset]⟩

end Line

namespace Context

/-! ### Texts from a byte on -/

/-- A text is cut at a byte that begins one of its characters. -/
lemma textFrom_eq_ok {start : Nat} {text after : List Char} :
    textFrom start text = .ok after ↔
      ∃ before, text = before ++ after ∧ Text.byteLength before = start := by
  rw [textFrom]
  cases hcut : Text.cutAtByte? start text with
  | some parts =>
    obtain ⟨before, rest⟩ := parts
    obtain ⟨rfl, rfl⟩ := Text.cutAtByte?_eq_some.mp hcut
    constructor
    · rintro ⟨⟩
      exact ⟨before, rfl, rfl⟩
    · rintro ⟨before', htext, hlength⟩
      have := Text.cutAtByte?_eq_some.mpr ⟨htext, hlength⟩
      simp_all
  | none =>
    constructor
    · rintro ⟨⟩
    · rintro ⟨before, rfl, rfl⟩
      exact absurd (Text.boundary_append before after) (Text.cutAtByte?_eq_none.mp hcut)

/-- A text is not cut at a byte inside one of its characters. -/
lemma textFrom_eq_error {start : Nat} {text : List Char} {err : ContextError} :
    textFrom start text = .error err ↔
      err = .insideCharacter ∧ ¬ Text.Boundary start text := by
  rw [textFrom, ← Text.cutAtByte?_eq_none]
  cases Text.cutAtByte? start text with
  | some parts => simp
  | none => simp [eq_comm]

/-! ### Texts behind the last character of a kind -/

/-- The last character of a text that satisfies `ends` takes several bytes. -/
def WideEnd (ends : Char → Bool) (text : List Char) : Prop :=
  ∃ before c after, text = before ++ c :: after ∧ ends c = true ∧ 1 < c.utf8Size ∧
    ∀ x ∈ after, ends x = false

/-- One byte behind the start of a character is a boundary if the character takes one byte. -/
lemma boundary_succ_iff {before after : List Char} {c : Char} :
    Text.Boundary (Text.byteLength before + 1) (before ++ c :: after) ↔ c.utf8Size ≤ 1 := by
  constructor
  · rintro ⟨as, bs, htext, hlength⟩
    rcases List.append_eq_append_iff.mp htext with ⟨ds, rfl, hds⟩ | ⟨ds, rfl, -⟩
    · -- The first part goes one byte into what follows, so its rest is that one character.
      rw [Text.byteLength_append, Nat.add_left_cancel_iff] at hlength
      cases ds with
      | nil => exact absurd hlength (by simp)
      | cons d ds =>
        obtain ⟨rfl, -⟩ := List.cons.inj hds
        rw [Text.byteLength_cons] at hlength
        omega
    · rw [Text.byteLength_append] at hlength
      omega
  · intro hc
    have hsize : c.utf8Size = 1 := Nat.le_antisymm hc c.utf8Size_pos
    exact ⟨before ++ [c], after, by simp, by simp [hsize]⟩

/-- The place behind the last character of a kind is a boundary, unless that character takes
several bytes. -/
lemma boundary_startAfter_iff {ends : Char → Bool} {text : List Char} :
    Text.Boundary (startAfter ends text) text ↔ ¬ WideEnd ends text := by
  rw [startAfter]
  cases hcut : Text.cutLastWhere ends text with
  | none =>
    have hnone := Text.cutLastWhere_eq_none.mp hcut
    simp only [Text.boundary_zero, true_iff]
    rintro ⟨before, c, after, rfl, hc, -, -⟩
    rw [hnone c (by simp)] at hc
    exact absurd hc (by decide)
  | some parts =>
    obtain ⟨before, after⟩ := parts
    obtain ⟨c, rfl, hc, hafter⟩ := Text.cutLastWhere_eq_some.mp hcut
    simp only [boundary_succ_iff]
    constructor
    · rintro hsize ⟨before', c', after', htext, hc', hwide, hafter'⟩
      have hcut' := Text.cutLastWhere_append_cons before' hc' hafter'
      rw [← htext, hcut, Option.some.injEq, Prod.mk.injEq] at hcut'
      obtain ⟨rfl, rfl⟩ := hcut'
      obtain ⟨rfl, -⟩ := List.cons.inj (List.append_cancel_left htext)
      omega
    · intro hnarrow
      by_contra hwide
      exact hnarrow ⟨before, c, after, rfl, hc, by omega, hafter⟩

/-- The text behind the last character of a kind is not found where that character takes several
bytes. -/
lemma textAfter_eq_error {ends : Char → Bool} {text : List Char} {err : ContextError} :
    textAfter ends text = .error err ↔ err = .insideCharacter ∧ WideEnd ends text := by
  rw [textAfter, textFrom_eq_error, boundary_startAfter_iff, not_not]

/-- What follows the last character of a kind ends the text. -/
lemma suffix_of_textAfter {ends : Char → Bool} {text after : List Char}
    (h : textAfter ends text = .ok after) : after <:+ text := by
  obtain ⟨before, rfl, -⟩ := textFrom_eq_ok.mp h
  exact List.suffix_append before after

/-! ### Words and arguments -/

/-- The last blank or bar of a text is a blank of several bytes. -/
def EndsInWideBlank (text : List Char) : Prop :=
  ∃ before c after, text = before ++ c :: after ∧ Text.isBlank c = true ∧ 1 < c.utf8Size ∧
    ∀ x ∈ after, endsArgument x = false

/-- Path separators take one byte. -/
lemma utf8Size_of_isSeparator {c : Char} (h : isSeparator c = true) : c.utf8Size = 1 := by
  simp only [isSeparator, Bool.or_eq_true, beq_iff_eq] at h
  rcases h with rfl | rfl <;> decide

/-- Only blanks take several bytes among the characters that end an argument. -/
lemma wideEnd_endsArgument {text : List Char} :
    WideEnd endsArgument text ↔ EndsInWideBlank text := by
  constructor
  · rintro ⟨before, c, after, htext, hc, hwide, hafter⟩
    refine ⟨before, c, after, htext, ?_, hwide, hafter⟩
    simp only [endsArgument, Bool.or_eq_true, beq_iff_eq] at hc
    rcases hc with hc | rfl
    · exact hc
    · exact absurd hwide (by decide)
  · rintro ⟨before, c, after, htext, hc, hwide, hafter⟩
    exact ⟨before, c, after, htext, by simp [endsArgument, hc], hwide, hafter⟩

/-- A word that would start inside of a character belongs to an argument that does. -/
lemma WideEnd.endsArgument {text : List Char} (h : WideEnd endsWord text) :
    WideEnd endsArgument text := by
  obtain ⟨before, c, after, htext, hc, hwide, hafter⟩ := h
  refine ⟨before, c, after, htext, ?_, hwide, ?_⟩
  · rcases (Bool.or_eq_true _ _).mp hc with hc | hc
    · exact hc
    · rw [utf8Size_of_isSeparator hc] at hwide
      exact absurd hwide (by decide)
  · exact fun x hx => (Bool.or_eq_false_iff.mp (hafter x hx)).1

/-- Behind a path separator there is always a boundary. -/
lemma exists_textAfter_isSeparator (text : List Char) :
    ∃ after, textAfter isSeparator text = .ok after := by
  cases h : textAfter isSeparator text with
  | ok after => exact ⟨after, rfl⟩
  | error err =>
    obtain ⟨-, before, c, after, -, hc, hwide, -⟩ := textAfter_eq_error.mp h
    rw [utf8Size_of_isSeparator hc] at hwide
    exact absurd hwide (by decide)

/-- Behind an open quote there is always a boundary. -/
lemma exists_textFrom_openQuote {text : List Char} {quote : Nat}
    (h : Line.openQuote? text = some quote) :
    ∃ quoted, textFrom (quote + 1) text = .ok quoted := by
  obtain ⟨before, after, rfl, rfl⟩ := Line.openQuote?_eq_some h
  exact ⟨after, textFrom_eq_ok.mpr ⟨before ++ ['"'], by simp, by simp; rfl⟩⟩

/-- In an open quote the word and the argument can be told. -/
lemma exists_quotedWord {text : List Char} {quote : Nat} (h : Line.openQuote? text = some quote) :
    ∃ word quoted, textFrom (quote + 1) text = .ok quoted ∧
      textAfter isSeparator quoted = .ok word := by
  obtain ⟨quoted, hquoted⟩ := exists_textFrom_openQuote h
  obtain ⟨word, hword⟩ := exists_textAfter_isSeparator quoted
  exact ⟨word, quoted, hquoted, hword⟩

/-- The word and the argument cannot be told exactly if the argument would start inside of a
character. -/
theorem wordAndArgument_eq_error {text : List Char} {err : ContextError} :
    wordAndArgument text = .error err ↔ err = .insideCharacter ∧ EndsInWideBlank text := by
  rw [wordAndArgument, bind_eq_error]
  constructor
  · rintro (hword | ⟨word, -, h⟩)
    · obtain ⟨herr, hwide⟩ := textAfter_eq_error.mp hword
      exact ⟨herr, wideEnd_endsArgument.mp hwide.endsArgument⟩
    · rcases bind_eq_error.mp h with hargument | ⟨argument, -, h⟩
      · obtain ⟨herr, hwide⟩ := textAfter_eq_error.mp hargument
        exact ⟨herr, wideEnd_endsArgument.mp hwide⟩
      · cases hquote : Line.openQuote? text with
        | none => simp [hquote, pure, Except.pure] at h
        | some quote =>
          obtain ⟨word, quoted, hquoted, hword⟩ := exists_quotedWord hquote
          simp [hquote, hquoted, hword, bind, Except.bind, pure, Except.pure] at h
  · rintro ⟨rfl, hwide⟩
    have hargument : textAfter endsArgument text = .error .insideCharacter :=
      textAfter_eq_error.mpr ⟨rfl, wideEnd_endsArgument.mpr hwide⟩
    cases hword : textAfter endsWord text with
    | ok word => exact .inr ⟨word, rfl, bind_eq_error.mpr (.inl hargument)⟩
    | error err => exact .inl (by rw [(textAfter_eq_error.mp hword).1])

/-- The word and the argument end the text. -/
lemma suffix_of_wordAndArgument {text word argument : List Char}
    (h : wordAndArgument text = .ok (word, argument)) : word <:+ text ∧ argument <:+ text := by
  obtain ⟨plainWord, hword, h⟩ := bind_eq_ok.mp h
  obtain ⟨plainArgument, hargument, h⟩ := bind_eq_ok.mp h
  cases hquote : Line.openQuote? text with
  | none =>
    simp only [hquote, pure, Except.pure, Except.ok.injEq, Prod.mk.injEq] at h
    obtain ⟨rfl, rfl⟩ := h
    exact ⟨suffix_of_textAfter hword, suffix_of_textAfter hargument⟩
  | some quote =>
    rw [hquote] at h
    obtain ⟨quoted, hquoted, h⟩ := bind_eq_ok.mp h
    obtain ⟨quotedWord, hquotedWord, h⟩ := bind_eq_ok.mp h
    simp only [pure, Except.pure, Except.ok.injEq, Prod.mk.injEq] at h
    obtain ⟨rfl, rfl⟩ := h
    obtain ⟨before, rfl, -⟩ := textFrom_eq_ok.mp hquoted
    have hsuffix := List.suffix_append before quoted
    exact ⟨(suffix_of_textAfter hquotedWord).trans hsuffix, hsuffix⟩

/-! ### Contexts -/

/-- The context of a cursor cannot be told exactly if the last blank or bar before it is a blank
of several bytes. -/
theorem parse_eq_error {g : Grammar} {line : String} {cursor : Nat} {err : ContextError} :
    parse g line cursor = .error err ↔
      err = .insideCharacter ∧ EndsInWideBlank (Text.beforeByte cursor line.toList) := by
  rw [parse, ofText, bind_eq_error, wordAndArgument_eq_error]
  constructor
  · rintro (h | ⟨parts, -, h⟩)
    · exact h
    · exact absurd h (by simp [pure, Except.pure])
  · exact .inl

/-- The word of a context ends the text before the cursor. -/
lemma word_suffix_of_parse {g : Grammar} {line : String} {cursor : Nat} {c : Context}
    (h : parse g line cursor = .ok c) :
    c.word.toList <:+ Text.beforeByte cursor line.toList := by
  obtain ⟨⟨word, argument⟩, hparts, h⟩ := bind_eq_ok.mp h
  simp only [pure, Except.pure, Except.ok.injEq] at h
  subst h
  simpa using (suffix_of_wordAndArgument hparts).1

/-- The word of a context starts where it stands in the text before the cursor. -/
lemma wordStart_eq {line : String} {cursor : Nat} {c : Context} {head : List Char}
    (h : Text.beforeByte cursor line.toList = head ++ c.word.toList) :
    c.wordStart (Text.clampByte cursor line.toList) = Text.byteLength head := by
  rw [wordStart, Text.clampByte, h, Text.byteLength_append, Text.byteLength_toList,
    Nat.add_sub_cancel]

end Context

end TableShell
