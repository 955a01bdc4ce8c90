import TableShell.Completion.Suggestion
import TableShell.Proofs.Line.Cursor

/-!
# Where candidates go

A candidate replaces the end of the text before the cursor, from a boundary on: the start of the
word at the cursor, or for a list of columns the start of its last item. So a completion can always
be put into the line, and a suggestion can be made wherever the context can be told.
-/

namespace TableShell.Suggester

/-- A list of items is its part up to the last comma and the item behind it. -/
lemma splitItems_append (word : List Char) :
    (splitItems word).1 ++ (splitItems word).2 = word := by
  rw [splitItems, Text.cutLast]
  cases hcut : Text.cutLastWhere (· == ',') word with
  | none => rfl
  | some parts =>
    obtain ⟨before, after⟩ := parts
    obtain ⟨c, rfl, hc, -⟩ := Text.cutLastWhere_eq_some.mp hcut
    simp [beq_iff_eq.mp hc]

/-- The part of the word in a context that stays, and the part that candidates replace. Of a list of
columns only the last item is replaced. -/
def wordParts (c : Context) : List Char × List Char :=
  match c.role with
  | .filterArgument filter _ =>
    if filter.name == "select" then splitItems c.word.toList else ([], c.word.toList)
  | _ => ([], c.word.toList)

/-- The part of a word that is kept and the part that is replaced make up the word. -/
lemma wordParts_append (c : Context) : (wordParts c).1 ++ (wordParts c).2 = c.word.toList := by
  unfold wordParts
  cases c.role with
  | filterArgument filter done =>
    dsimp only
    split
    · exact splitItems_append _
    · rfl
  | _ => rfl

/-- What is offered replaces the text from behind the part of the word that is kept. -/
lemma replaceFrom_candidatesIn (s : Suggester) (c : Context) (cursor : Nat) :
    (s.candidatesIn c cursor).replaceFrom =
      c.wordStart cursor + Text.byteLength (wordParts c).1 := by
  unfold candidatesIn wordParts
  cases c.role with
  | filterArgument filter done =>
    simp only [filterArgument]
    split
    · rfl
    · split <;> rfl
  | _ => rfl

/-- The candidates in the context of a cursor replace the end of the text before it. -/
lemma exists_replaced_candidatesIn (s : Suggester) {g : Grammar} {line : String} {cursor : Nat}
    {c : Context} (h : Context.parse g line cursor = .ok c) :
    ∃ head, Text.beforeByte cursor line.toList = head ++ (wordParts c).2 ∧
      Text.byteLength head =
        (s.candidatesIn c (Text.clampByte cursor line.toList)).replaceFrom := by
  obtain ⟨before, hbefore⟩ := Context.word_suffix_of_parse h
  refine ⟨before ++ (wordParts c).1, ?_, ?_⟩
  · rw [List.append_assoc, wordParts_append, hbefore]
  · rw [replaceFrom_candidatesIn, Context.wordStart_eq hbefore.symm, Text.byteLength_append]

/-! ### Completions -/

/-- There is no completion exactly if the last blank or bar before the cursor is a blank of several
bytes. -/
theorem complete_eq_error {s : Suggester} {line : String} {cursor : Nat} {err : ContextError} :
    s.complete line cursor = .error err ↔
      err = .insideCharacter ∧
        Context.EndsInWideBlank (Text.beforeByte cursor line.toList) := by
  rw [complete, bind_eq_error, Context.parse_eq_error, Text.beforeByte_clampByte]
  simp [pure, Except.pure]

/-- Where the context of a cursor can be told, the completion is the one in that context. -/
lemma complete_eq_ok {s : Suggester} {line : String} {cursor : Nat} {c : Context}
    (hc : Context.parse s.grammar line cursor = .ok c) :
    s.complete line cursor = .ok (s.candidatesIn c (Text.clampByte cursor line.toList)) := by
  have hclamped : Context.parse s.grammar line (Text.clampByte cursor line.toList) = .ok c := by
    rw [← hc, Context.parse, Context.parse, Text.beforeByte_clampByte]
  unfold complete
  simp only [bind, Except.bind]
  rw [hclamped]
  rfl

/-- A completion replaces the end of the text before the cursor. -/
theorem exists_replaced_of_complete {s : Suggester} {line : String} {cursor : Nat}
    {completion : Completion} (h : s.complete line cursor = .ok completion) :
    ∃ head typed, Text.beforeByte cursor line.toList = head ++ typed ∧
      Text.byteLength head = completion.replaceFrom := by
  obtain ⟨c, hc, h⟩ := bind_eq_ok.mp h
  simp only [pure, Except.pure, Except.ok.injEq] at h
  obtain ⟨head, hbefore, hhead⟩ := exists_replaced_candidatesIn s hc
  rw [Text.beforeByte_clampByte] at hbefore
  rw [(Text.boundary_clampByte cursor line.toList).clampByte_eq, h] at hhead
  exact ⟨head, _, hbefore, hhead⟩

/-! ### Suggestions -/

/-- In a context that can be told, a suggestion can be made. -/
lemma exists_contextSuggestion (s : Suggester) {line : String} {c : Context}
    (h : Context.parse s.grammar line line.utf8ByteSize = .ok c) :
    ∃ suggestion, s.contextSuggestion c line = .ok suggestion := by
  obtain ⟨head, hline, hhead⟩ := exists_replaced_candidatesIn s h
  rw [Text.beforeByte_utf8ByteSize] at hline
  rw [Text.clampByte, Text.beforeByte_utf8ByteSize, Text.byteLength_toList] at hhead
  have hcut : Text.cutAtByte? (s.candidatesIn c line.utf8ByteSize).replaceFrom line.toList =
      some (head, (wordParts c).2) :=
    Text.cutAtByte?_eq_some.mpr ⟨hline, hhead⟩
  rw [contextSuggestion]
  cases (s.candidatesIn c line.utf8ByteSize).best? with
  | none => exact ⟨none, rfl⟩
  | some candidate =>
    simp only [hcut, ContextError.unless, bind, Except.bind]
    split <;> exact ⟨_, rfl⟩

/-- A suggestion cannot be made only if the last blank or bar of the line is a blank of several
bytes. -/
theorem suggest_eq_error {s : Suggester} {line : String} {cursor : Nat} {err : ContextError}
    (h : s.suggest line cursor = .error err) :
    err = .insideCharacter ∧ Context.EndsInWideBlank line.toList := by
  rw [suggest] at h
  split at h
  · exact absurd h (by simp)
  · next hcursor =>
    have hcursor : cursor = line.utf8ByteSize := by
      simp only [Bool.or_eq_true, bne_iff_ne, not_or, not_not] at hcursor
      exact hcursor.1
    subst hcursor
    cases hhistory : s.historySuggestion? line with
    | some suggestion => simp [hhistory] at h
    | none =>
      rw [hhistory] at h
      rcases bind_eq_error.mp h with h | ⟨c, hc, h⟩
      · rwa [Context.parse_eq_error, Text.beforeByte_utf8ByteSize] at h
      · obtain ⟨suggestion, hsuggestion⟩ := exists_contextSuggestion s hc
        rw [hsuggestion] at h
        exact absurd h (by simp)

end TableShell.Suggester
