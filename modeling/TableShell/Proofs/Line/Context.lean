import Mathlib.Data.List.DropRight
import Mathlib.Data.List.TakeWhile
import TableShell.Proofs.Line.Cursor

/-!
# The context of a cursor

Where the context of a cursor can be told, its argument is the text from some boundary up to the
cursor, and its word is the end of the argument behind its last path separator. Outside of quotes
the two are looked for separately in the text before the cursor; they fit together because every
character that ends an argument ends a word as well, and the only other ones are the separators.
-/

namespace TableShell

/-! ### Ends of texts -/

namespace Text

variable {p : Char → Bool} {cs before after : List Char}

/-- What follows the last character of a kind is the longest end without one. -/
lemma rtakeWhile_of_cutLastWhere_eq_some (h : cutLastWhere p cs = some (before, after)) :
    cs.rtakeWhile (fun c => !p c) = after := by
  obtain ⟨c, rfl, hc, hafter⟩ := cutLastWhere_eq_some.mp h
  have hrest : ∀ x ∈ after.reverse, (!p x) = true := by simpa using hafter
  rw [List.rtakeWhile, List.reverse_append, List.reverse_cons, List.append_assoc,
    List.takeWhile_append_of_pos hrest, List.singleton_append,
    List.takeWhile_cons_of_neg (by simp [hc]), List.append_nil, List.reverse_reverse]

/-- Without a character of the kind, the longest end is the whole text. -/
lemma rtakeWhile_of_cutLastWhere_eq_none (h : cutLastWhere p cs = none) :
    cs.rtakeWhile (fun c => !p c) = cs := by
  rw [List.rtakeWhile_eq_self_iff]
  simpa using cutLastWhere_eq_none.mp h

/-- A longest end within a longest end. -/
lemma rtakeWhile_rtakeWhile (p q : Char → Bool) (cs : List Char) :
    (cs.rtakeWhile q).rtakeWhile p = cs.rtakeWhile fun c => p c && q c := by
  simp [List.rtakeWhile, List.takeWhile_takeWhile, Bool.decide_and]

end Text

namespace Context

variable {ends : Char → Bool} {text word argument after : List Char}

/-- A text cut behind its last character of a kind leaves the longest end without one. -/
lemma eq_rtakeWhile_of_textAfter (h : textAfter ends text = .ok after) :
    after = text.rtakeWhile fun c => !ends c := by
  obtain ⟨head, htext, hhead⟩ := textFrom_eq_ok.mp h
  have hboundary : Text.Boundary (startAfter ends text) text := ⟨head, after, htext, hhead⟩
  rw [startAfter] at hboundary hhead
  cases hcut : Text.cutLastWhere ends text with
  | none =>
    rw [hcut] at hhead
    obtain rfl := Text.byteLength_eq_zero.mp hhead
    rw [Text.rtakeWhile_of_cutLastWhere_eq_none hcut, htext, List.nil_append]
  | some parts =>
    obtain ⟨before, rest⟩ := parts
    rw [Text.rtakeWhile_of_cutLastWhere_eq_some hcut]
    obtain ⟨c, rfl, -, -⟩ := Text.cutLastWhere_eq_some.mp hcut
    rw [hcut] at hboundary hhead
    have hsize : c.utf8Size = 1 :=
      Nat.le_antisymm (boundary_succ_iff.mp hboundary) c.utf8Size_pos
    -- Both cuts are made at the same byte.
    have hcuts : Text.cutAtByte? (Text.byteLength before + 1) (before ++ c :: rest) =
        some (before ++ [c], rest) :=
      Text.cutAtByte?_eq_some.mpr ⟨by simp, by simp [hsize]⟩
    rw [Text.cutAtByte?_eq_some.mpr ⟨htext, hhead⟩] at hcuts
    exact (Prod.mk.inj (Option.some.inj hcuts)).2

/-- The name in a path is its longest end without a separator. -/
lemma splitPath_snd (argument : List Char) :
    (splitPath argument).2 = argument.rtakeWhile fun c => !isSeparator c := by
  unfold splitPath
  cases hcut : Text.cutLastWhere isSeparator argument with
  | none => exact (Text.rtakeWhile_of_cutLastWhere_eq_none hcut).symm
  | some parts => exact (Text.rtakeWhile_of_cutLastWhere_eq_some hcut).symm

/-- The word at the end of a text is the name in the argument there. -/
theorem splitPath_of_wordAndArgument (h : wordAndArgument text = .ok (word, argument)) :
    (splitPath argument).2 = word := by
  rw [splitPath_snd]
  obtain ⟨plainWord, hword, h⟩ := bind_eq_ok.mp h
  obtain ⟨plainArgument, hargument, h⟩ := bind_eq_ok.mp h
  cases hquote : Line.openQuote? text with
  | none =>
    simp only [hquote, pure, Except.pure, Except.ok.injEq, Prod.mk.injEq] at h
    obtain ⟨rfl, rfl⟩ := h
    have hends : ∀ c, (!isSeparator c && !endsArgument c) = !endsWord c := by
      intro c
      rw [endsWord, Bool.not_or, Bool.and_comm]
    rw [eq_rtakeWhile_of_textAfter hargument, eq_rtakeWhile_of_textAfter hword,
      Text.rtakeWhile_rtakeWhile]
    simp only [hends]
  | some quote =>
    rw [hquote] at h
    obtain ⟨quoted, -, h⟩ := bind_eq_ok.mp h
    obtain ⟨quotedWord, hquotedWord, h⟩ := bind_eq_ok.mp h
    simp only [pure, Except.pure, Except.ok.injEq, Prod.mk.injEq] at h
    obtain ⟨rfl, rfl⟩ := h
    exact (eq_rtakeWhile_of_textAfter hquotedWord).symm

/-! ### Places in the line -/

/-- The argument of a context is the text of a line between two bytes, and its word is the end of
that text behind the last path separator. -/
structure EndsAt (c : Context) (line : String) (start stop : Nat) : Prop where
  boundary_start : Text.Boundary start line.toList
  boundary_wordStart : Text.Boundary (c.wordStart stop) line.toList
  start_le : start ≤ c.wordStart stop
  wordStart_le : c.wordStart stop ≤ stop
  word_eq : c.word = Text.sliceBytes (c.wordStart stop) stop line
  argument_eq : c.argument = Text.sliceBytes start stop line
  name_eq : (splitPath c.argument.toList).2 = c.word.toList

variable {g : Grammar} {line : String} {cursor : Nat} {c : Context}

/-- The word of a context is the name in its argument. -/
lemma splitPath_of_parse (h : parse g line cursor = .ok c) :
    (splitPath c.argument.toList).2 = c.word.toList := by
  obtain ⟨⟨word, argument⟩, hparts, h⟩ := bind_eq_ok.mp h
  simp only [pure, Except.pure, Except.ok.injEq] at h
  subst h
  simpa using splitPath_of_wordAndArgument hparts

/-- The argument of a context ends the text before the cursor. -/
lemma argument_suffix_of_parse (h : parse g line cursor = .ok c) :
    c.argument.toList <:+ Text.beforeByte cursor line.toList := by
  obtain ⟨⟨word, argument⟩, hparts, h⟩ := bind_eq_ok.mp h
  simp only [pure, Except.pure, Except.ok.injEq] at h
  subst h
  simpa using (suffix_of_wordAndArgument hparts).2

/-- The word of a context ends at the cursor. -/
lemma exists_endsAt_of_parse (h : parse g line cursor = .ok c) :
    ∃ start, c.EndsAt line start (Text.clampByte cursor line.toList) := by
  have hname := splitPath_of_parse h
  obtain ⟨head, hargument⟩ := argument_suffix_of_parse h
  have hword : c.word.toList <:+ c.argument.toList := by
    rw [← hname, splitPath_snd]
    exact List.rtakeWhile_suffix _ _
  obtain ⟨dir, hdir⟩ := hword
  have htext : Text.beforeByte cursor line.toList = (head ++ dir) ++ c.word.toList := by
    rw [List.append_assoc, hdir, hargument]
  have hstart := wordStart_eq htext
  refine ⟨Text.byteLength head, Text.boundary_of_beforeByte hargument.symm, ?_, ?_, ?_, ?_, ?_,
    hname⟩
  · rw [hstart]
    exact Text.boundary_of_beforeByte htext
  · rw [hstart, Text.byteLength_append]
    exact Nat.le_add_right _ _
  · exact Nat.sub_le _ _
  · rw [hstart, Text.sliceBytes_of_beforeByte htext, String.ofList_toList]
  · rw [Text.sliceBytes_of_beforeByte hargument.symm, String.ofList_toList]

/-! ### All cursors -/

/-- The context of a cursor cannot be told exactly if the last blank or bar before it is a blank of
several bytes, inside of quotes or not. Everywhere else the argument of the context is the text from
a boundary up to the cursor, and its word is the name in it. In both cases nothing behind the cursor
matters. -/
theorem parse_cases (g : Grammar) (line : String) (cursor : Nat) :
    let before := Text.beforeByte cursor line.toList
    let stop := Text.clampByte cursor line.toList
    (∀ err, parse g line cursor = .error err ↔
        err = .insideCharacter ∧ EndsInWideBlank before) ∧
      (EndsInWideBlank before ∨
        ∃ c start, parse g line cursor = .ok c ∧ c.EndsAt line start stop) ∧
      parse g line cursor = parse g (.ofList before) stop := by
  intro before stop
  refine ⟨fun err => parse_eq_error, ?_, ?_⟩
  · cases hparse : parse g line cursor with
    | error err => exact .inl (parse_eq_error.mp hparse).2
    | ok c =>
      obtain ⟨start, hends⟩ := exists_endsAt_of_parse hparse
      exact .inr ⟨c, start, rfl, hends⟩
  · have hall : Text.beforeByte stop before = before := by
      have h := Text.beforeByte_byteLength_append before []
      rwa [List.append_nil] at h
    rw [parse, parse, String.toList_ofList, hall]

/-- In an open quote the argument goes over blanks and bars, and the word does not go over a path
separator. -/
example :
    (parse .standard "cd \"é b/ü|x" 99).map (fun c => (c.word, c.argument)) =
      .ok ("ü|x", "é b/ü|x") := by
  decide +kernel

end Context

end TableShell
