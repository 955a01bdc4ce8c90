import TableShell.Completion.Shell
import TableShell.Proofs.Completion.Position
import TableShell.Proofs.History.Ranking

/-!
# What a suggestion stands for

A suggestion has two sides: the text that is shown behind the line, and the line that it leads to. A
line of the history either goes on where the typed line ends, and then its rest is shown, or it
holds the typed line elsewhere, and then it is shown as a whole behind an arrow. A candidate for the
last word is put into the line in place of that word, as the completion of the word puts it there.

Something is always shown. For a line of the history this rests on the source of these lines: it
never gives back what was typed.
-/

namespace TableShell

/-! ### Lines of the history -/

/-- The lines that may continue a typed line hold it, and they are other lines. -/
def Sources.Continuing (sources : Sources) : Prop :=
  ∀ typed minSubstring, typed ≠ "" → ∀ line ∈ sources.continuations typed minSubstring,
    line ≠ typed ∧ typed.toList <:+: line.toList

/-- The history of a shell continues lines that way. -/
lemma Sources.continuing_ofShell (shell : Shell) (fs : FileSystem) (base : String) :
    (Sources.ofShell shell fs base).Continuing := by
  intro typed minSubstring hne line hline
  change line ∈ shell.history.history.suggestions typed minSubstring at hline
  rw [History.suggestions_eq hne, List.mem_append] at hline
  rcases hline with hbeginning | hcontaining
  · obtain ⟨hother, hprefix⟩ := History.goesOn_iff.mp (History.mem_rankedWhere.mp hbeginning).2
    exact ⟨hother, hprefix.isInfix⟩
  · have hinside := (History.mem_rankedWhere.mp hcontaining).2
    exact ⟨History.ne_of_holdsInside hinside, (History.holdsInside_iff.mp hinside).2.2⟩

/-- What is shown leads from a line to the one that is suggested: it is the rest of that line, or
the whole of it behind an arrow where it holds the typed line elsewhere. -/
def Suggestion.Continues (x : Suggestion) (typed : String) : Prop :=
  x.accepted = typed ++ x.ghost ∨
    typed.toList <:+: x.accepted.toList ∧ x.ghost = " → " ++ x.accepted

namespace Suggester

variable {s : Suggester} {line : String} {cursor : Nat} {x : Suggestion} {c : Context}

/-- A line that holds another one is shown behind it. -/
lemma continues_ghostOf {hit : String} (hne : hit ≠ line) (hinside : line.toList <:+: hit.toList)
    (source : SuggestionSource) :
    Suggestion.Continues { ghost := ghostOf line hit, accepted := hit, source } line ∧
      ghostOf line hit ≠ "" := by
  unfold Suggestion.Continues ghostOf
  cases hrest : Text.afterStart? line.toList hit.toList with
  | none => exact ⟨.inr ⟨hinside, rfl⟩, by simp⟩
  | some rest =>
    have hhit : hit = line ++ .ofList rest := by
      rw [← String.toList_inj, String.toList_append, String.toList_ofList]
      exact Text.afterStart?_eq_some.mp hrest
    refine ⟨.inl hhit, fun hempty => hne ?_⟩
    simp only [hempty, String.append_empty] at hhit
    exact hhit

/-! ### Suggestions of both kinds -/

/-- A suggestion from the history says so. -/
lemma source_of_historySuggestion? (h : s.historySuggestion? line = some x) :
    x.source = .history := by
  unfold historySuggestion? at h
  split at h
  · cases h
  · obtain ⟨hit, -, rfl⟩ := Option.map_eq_some_iff.mp h
    rfl

/-- The best line of the history continues the line. -/
lemma continues_of_historySuggestion? (hs : s.sources.Continuing) (hne : line ≠ "")
    (h : s.historySuggestion? line = some x) : x.Continues line ∧ x.ghost ≠ "" := by
  unfold historySuggestion? at h
  split at h
  · cases h
  · obtain ⟨hit, hhit, rfl⟩ := Option.map_eq_some_iff.mp h
    obtain ⟨hother, hinside⟩ := hs _ _ hne hit (List.mem_of_mem_head? hhit)
    exact continues_ghostOf hother hinside .history

/-- The rest of the first candidate is suggested together with the line that has the candidate in
place of the word. -/
lemma exists_best?_of_contextSuggestion (h : s.contextSuggestion c line = .ok (some x)) :
    x.source = .context ∧ x.ghost ≠ "" ∧ ∃ candidate head typed,
      (s.candidatesIn c line.utf8ByteSize).best? = some candidate ∧
        Text.cutAtByte? (s.candidatesIn c line.utf8ByteSize).replaceFrom line.toList =
          some (head, typed) ∧
        x.accepted = .ofList head ++ candidate := by
  unfold contextSuggestion at h
  cases hbest : (s.candidatesIn c line.utf8ByteSize).best? with
  | none => simp [hbest, pure, Except.pure] at h
  | some candidate =>
    simp only [hbest] at h
    obtain ⟨⟨head, typed⟩, hunless, h⟩ := bind_eq_ok.mp h
    have hcut : Text.cutAtByte? (s.candidatesIn c line.utf8ByteSize).replaceFrom line.toList =
        some (head, typed) := by
      cases hcut : Text.cutAtByte? (s.candidatesIn c line.utf8ByteSize).replaceFrom
          line.toList with
      | none => simp [hcut, ContextError.unless] at hunless
      | some parts => simpa [hcut, ContextError.unless] using hunless
    dsimp only at h
    split at h
    · simp [pure, Except.pure] at h
    · next hshown =>
      simp only [pure, Except.pure, Except.ok.injEq, Option.some.injEq] at h
      subst h
      refine ⟨rfl, ?_, candidate, head, typed, rfl, hcut, rfl⟩
      simp only [Bool.or_eq_true, not_or, List.isEmpty_iff] at hshown
      intro hempty
      exact hshown.2 (String.ofList_eq_empty_iff.mp hempty)

/-- A suggestion is made for a line with the cursor at its end, and it comes from the history or
else from the context. -/
lemma suggest_cases (h : s.suggest line cursor = .ok (some x)) :
    cursor = line.utf8ByteSize ∧ line ≠ "" ∧
      (s.historySuggestion? line = some x ∨
        ∃ c, Context.parse s.grammar line cursor = .ok c ∧
          s.contextSuggestion c line = .ok (some x)) := by
  unfold suggest at h
  split at h
  · simp at h
  · next hplace =>
    simp only [Bool.or_eq_true, bne_iff_ne, not_or, not_not] at hplace
    obtain ⟨rfl, hblank⟩ := hplace
    refine ⟨rfl, ?_, ?_⟩
    · rintro rfl
      exact hblank rfl
    · cases hhistory : s.historySuggestion? line with
      | some suggestion =>
        simp only [hhistory, Except.ok.injEq] at h
        exact .inl h
      | none =>
        rw [hhistory] at h
        exact .inr (bind_eq_ok.mp h)

/-- Something is shown of every suggestion. -/
theorem ghost_ne_of_suggest (hs : s.sources.Continuing)
    (h : s.suggest line cursor = .ok (some x)) : x.ghost ≠ "" := by
  obtain ⟨-, hne, hhistory | ⟨c, -, hcontext⟩⟩ := suggest_cases h
  · exact (continues_of_historySuggestion? hs hne hhistory).2
  · exact (exists_best?_of_contextSuggestion hcontext).2.1

/-- A suggestion from the history continues the line. -/
theorem continues_of_suggest (hs : s.sources.Continuing)
    (h : s.suggest line cursor = .ok (some x)) (hsource : x.source = .history) :
    x.Continues line := by
  obtain ⟨-, hne, hhistory | ⟨c, -, hcontext⟩⟩ := suggest_cases h
  · exact (continues_of_historySuggestion? hs hne hhistory).1
  · rw [(exists_best?_of_contextSuggestion hcontext).1] at hsource
    cases hsource

/-- A suggestion from the context is the line with the first candidate of its completion in place of
the word. -/
theorem exists_complete_of_suggest (h : s.suggest line cursor = .ok (some x))
    (hsource : x.source = .context) :
    ∃ completion candidate head typed, s.complete line cursor = .ok completion ∧
      completion.best? = some candidate ∧ line.toList = head ++ typed ∧
      Text.byteLength head = completion.replaceFrom ∧
      x.accepted = .ofList head ++ candidate := by
  obtain ⟨rfl, -, hhistory | ⟨c, hparse, hcontext⟩⟩ := suggest_cases h
  · rw [source_of_historySuggestion? hhistory] at hsource
    cases hsource
  · obtain ⟨-, -, candidate, head, typed, hbest, hcut, haccepted⟩ :=
      exists_best?_of_contextSuggestion hcontext
    obtain ⟨hline, hhead⟩ := Text.cutAtByte?_eq_some.mp hcut
    have hclamp : Text.clampByte line.utf8ByteSize line.toList = line.utf8ByteSize := by
      rw [← Text.byteLength_toList]
      exact (Text.boundary_byteLength _).clampByte_eq
    refine ⟨_, candidate, head, typed, ?_, hbest, hline, hhead, haccepted⟩
    rw [complete_eq_ok hparse, hclamp]

end Suggester

end TableShell
