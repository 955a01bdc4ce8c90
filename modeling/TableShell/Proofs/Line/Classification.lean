import Mathlib.Data.List.DropRight
import TableShell.Proofs.Fallible
import TableShell.Proofs.Line.Agreement
import TableShell.Proofs.Line.LastBar

/-!
# The place of a cursor among the words

What a context says about the place of the cursor follows from the words in front of it. The words
behind the last bar are those of its stage. All of them are completed if the text ends in a gap, and
otherwise the last one is still being typed. `IsRole` says which role the next word has behind the
completed ones, and `Classifies` what a context answers to every question about it.

A context itself knows of no stages: it finds the last bar among the completed tokens and looks at
the tokens behind it and in front of it. The stages come in with `tokens_cases`, which says where
the last one stands among the tokens.
-/

namespace TableShell

/-! ### The stage of the cursor -/

namespace Line

open TableShell.Context (endsArgument)

/-- The words behind the last bar of a text, with their quotes. -/
def lastWords (text : List Char) : List String :=
  (tokens text).rtakeWhile (· != "|")

/-- No word is being typed at the end of a text: it is empty, or it ends in a blank or a bar, and
outside of quotes. -/
def EndsInGap (text : List Char) : Prop :=
  ∀ c ∈ text.getLast?, endsArgument c = true ∧ text.count '"' % 2 = 0

/-- The words behind the last bar of a text that are completed. -/
structure CompletedWords (text : List Char) (done : List String) : Prop where
  inGap : EndsInGap text → lastWords text = done
  inWord : ¬ EndsInGap text → ∃ typed, lastWords text = done ++ [typed]

variable {text : List Char}

/-- The words of the last group are found from the end of all words. -/
lemma rtakeWhile_flatten_append {groups : List (List String)} {last : List String}
    (h : "|" ∉ last) :
    ((groups.map (· ++ ["|"])).flatten ++ last).rtakeWhile (· != "|") = last := by
  have hlast : ∀ word ∈ last.reverse, (word != "|") = true := by
    intro word hword
    rw [bne_iff_ne]
    rintro rfl
    exact h (List.mem_reverse.mp hword)
  rw [List.rtakeWhile, List.reverse_append, List.takeWhile_append_of_pos hlast]
  induction groups using List.reverseRecOn with
  | nil => simp
  | append_singleton groups group => simp

/-- The stage of the cursor is the last one. There are as many stages as the line has when it is
run. -/
lemma exists_wordsByStage_eq (text : List Char) :
    ∃ earlier, wordsByStage text = earlier ++ [lastWords text] ∧
      (stages (.ofList text)).length = earlier.length + 1 := by
  obtain ⟨earlier, last, h⟩ := inStep_scan text
  obtain ⟨group, hended, hgroups, -, -⟩ := h.endWord
  have htokens : tokens text = (earlier.map (· ++ ["|"])).flatten ++ group := hended
  have hlast : lastWords text = group := by
    rw [lastWords, htokens, rtakeWhile_flatten_append (hgroups group (by simp))]
  have hwords : wordsByStage text = earlier ++ [lastWords text] := by
    rw [hlast, wordsByStage, htokens, Text.splitOn_flatten_append hgroups]
  have hlength := congrArg List.length (rawWords_rawStages text)
  simp only [List.length_map, hwords, List.length_append, List.length_singleton] at hlength
  refine ⟨earlier, hwords, ?_⟩
  rw [stages, String.toList_ofList, List.length_map, hlength]

/-! ### Completed words -/

/-- No word is begun where one has just ended. -/
lemma TokenScan.current_endWord (s : TokenScan) : s.endWord.current = [] := by
  unfold endWord
  split
  · next hempty => exact List.isEmpty_iff.mp hempty
  · rfl

/-- No word is begun behind a character that ends one, outside of quotes. -/
lemma TokenScan.current_take_eq_nil {s : TokenScan} {c : Char} :
    (s.take c).current = [] ↔ endsArgument c = true ∧ s.quote?.isNone = true := by
  unfold take
  split
  · next hquote =>
    obtain rfl := beq_iff_eq.mp hquote
    have hends : endsArgument '"' = false := by decide
    simp [hends]
  · split
    · next hbar =>
      obtain ⟨hbar, hclosed⟩ := Bool.and_eq_true_iff.mp hbar
      simp [current_endWord, endsArgument, hbar, hclosed]
    · next hbar =>
      split
      · next hblank =>
        obtain ⟨hblank, hclosed⟩ := Bool.and_eq_true_iff.mp hblank
        simp [current_endWord, endsArgument, hblank, hclosed]
      · next hblank =>
        constructor
        · simp
        · rintro ⟨hends, hclosed⟩
          simp_all [endsArgument]

/-- A text ends within a word unless it ends in a gap. -/
lemma endsInWord_eq_false_iff : endsInWord text = false ↔ EndsInGap text := by
  induction text using List.reverseRecOn with
  | nil => simp [endsInWord, scan, EndsInGap]
  | append_singleton text c =>
    have hcurrent : (scan (text ++ [c])).current = ((scan text).take c).current := by
      rw [scan_concat, TokenScan.step]
    have hquote := isSome_openQuote? text
    rw [openQuote?] at hquote
    unfold endsInWord EndsInGap
    rw [hcurrent, Bool.not_eq_false', List.isEmpty_iff, TokenScan.current_take_eq_nil,
      List.getLast?_concat]
    simp only [Option.mem_some_iff, forall_eq']
    refine and_congr_right fun hends => ?_
    -- What ends a word is no quote, so the quotes are those of the text before it.
    have hne : c ≠ '"' := by
      rintro rfl
      exact absurd hends (by decide)
    have hcount : [c].count '"' = 0 := by simp [hne]
    rw [List.count_append, hcount, Nat.add_zero, ← Option.not_isSome, hquote, Bool.not_eq_true',
      decide_eq_false_iff_not]
    omega

/-- The word that is being typed is the last one of its stage. -/
lemma exists_lastWords_eq (h : endsInWord text = true) :
    ∃ done typed, lastWords text = done ++ [typed] := by
  obtain ⟨earlier, last, hstep⟩ := inStep_scan text
  have hbegun : (scan text).current.isEmpty = false := by simpa [endsInWord] using h
  have hword := bne_iff_ne.mpr hstep.word_ne_bar
  refine ⟨(scan text).ended.rtakeWhile (· != "|"), .ofList (scan text).current, ?_⟩
  rw [lastWords, tokens, TokenScan.endWord, hbegun, if_neg Bool.false_ne_true]
  exact List.rtakeWhile_concat_pos _ _ _ hword

/-- The words behind the last bar without the one that is being typed. -/
def completedWords (text : List Char) : List String :=
  if endsInWord text then (lastWords text).dropLast else lastWords text

/-- The completed words are all words in a gap, and elsewhere all but the one that is being typed.
-/
lemma completedWords_spec (text : List Char) : CompletedWords text (completedWords text) := by
  unfold completedWords
  constructor
  case inGap =>
    intro hgap
    rw [endsInWord_eq_false_iff.mpr hgap, if_neg Bool.false_ne_true]
  case inWord =>
    intro hword
    rw [← endsInWord_eq_false_iff, Bool.not_eq_false] at hword
    obtain ⟨done, typed, hlast⟩ := exists_lastWords_eq hword
    rw [hword, if_pos rfl, hlast, List.dropLast_concat]
    exact ⟨typed, rfl⟩

/-- There is no word behind the last bar if none is completed and none is being typed. -/
lemma lastWords_eq_nil_iff :
    lastWords text = [] ↔ completedWords text = [] ∧ endsInWord text = false := by
  unfold completedWords
  cases hword : endsInWord text with
  | false => simp
  | true =>
    obtain ⟨done, typed, hlast⟩ := exists_lastWords_eq hword
    simp [hlast]

/-! ### The stage among the tokens -/

/-- No bar is among the words behind the last bar. -/
lemma bar_notMem_lastWords (text : List Char) : "|" ∉ lastWords text := by
  intro hmem
  have hword := List.mem_rtakeWhile_imp hmem
  exact absurd rfl (bne_iff_ne.mp hword)

/-- The tokens of a text are the words of its only stage, or its last stage stands behind a bar. -/
lemma tokens_cases (text : List Char) :
    (tokens text = lastWords text ∧ wordsByStage text = [lastWords text] ∧
        (stages (.ofList text)).length = 1) ∨
      ∃ front, tokens text = front ++ "|" :: lastWords text ∧
        wordsByStage text = front.splitOn "|" ++ [lastWords text] ∧
        2 ≤ (stages (.ofList text)).length := by
  obtain ⟨earlier, hwords, hlength⟩ := exists_wordsByStage_eq text
  by_cases hfirst : earlier = []
  · subst hfirst
    have htokens : ["|"].intercalate (wordsByStage text) = tokens text :=
      List.intercalate_splitOn "|"
    rw [hwords, List.nil_append, List.intercalate_singleton] at htokens
    exact .inl ⟨htokens.symm, hwords, hlength⟩
  · obtain ⟨front, htokens, hfront⟩ := Context.exists_append_of_splitOn hwords hfirst
    have hpos := List.length_pos_iff.mpr hfirst
    exact .inr ⟨front, htokens, by rw [hfront, hwords], by omega⟩

/-- The word that is being typed stands in the last stage. -/
lemma completedTokens_eq_append {front : List String}
    (h : tokens text = front ++ lastWords text) :
    completedTokens text = front ++ completedWords text := by
  unfold completedTokens completedWords
  cases hword : endsInWord text with
  | false => exact h
  | true =>
    obtain ⟨done, typed, hlast⟩ := exists_lastWords_eq hword
    rw [if_pos rfl, if_pos rfl, h, hlast, ← List.append_assoc, List.dropLast_concat,
      List.dropLast_concat]

/-- No bar is among the completed words. -/
lemma bar_notMem_completedWords (text : List Char) : "|" ∉ completedWords text := by
  intro hmem
  unfold completedWords at hmem
  split at hmem
  · exact bar_notMem_lastWords text (List.mem_of_mem_dropLast hmem)
  · exact bar_notMem_lastWords text hmem

end Line

/-! ### Filters -/

namespace Grammar

variable {g : Grammar} {name : String}

/-- A filter that is found for a name is one of the grammar and has that name in some case. -/
lemma filter?_spec {f : FilterDef} (h : g.filter? name = some f) :
    f ∈ g.filters ∧ Text.sameIgnoringCase f.name name = true := by
  unfold filter? lookupName at h
  have hfound := List.find?_some h
  exact ⟨List.mem_of_find?_eq_some h, hfound⟩

/-- A filter is found for a name if one of the grammar has that name in some case. -/
lemma isSome_filter?_iff : (g.filter? name).isSome = true ↔
    ∃ f ∈ g.filters, Text.sameIgnoringCase f.name name = true := by
  rw [filter?, lookupName, List.find?_isSome]

end Grammar

/-! ### The role of the next word -/

namespace Context

variable {g : Grammar} {line : String} {cursor : Nat} {c : Context}

/-- The role that a word has in the first stage or in a later one, behind completed words; `begun`
when it has characters already. -/
inductive IsRole (g : Grammar) (begun : Bool) : (later : Bool) → (done : List String) → Role → Prop
    where
  | command : IsRole g begun false [] .command
  | argument (command : String) (args : List String) :
      IsRole g begun false (command :: args) (.argument args)
  | filterName : IsRole g begun true [] (.filterName begun)
  | filterArgument (name : String) (args : List String) (f : FilterDef)
      (isFilter : g.filter? name = some f) :
      IsRole g begun true (name :: args) (.filterArgument f args)
  | unknown (name : String) (args : List String) (isOther : g.filter? name = none) :
      IsRole g begun true (name :: args) (.unknown (name :: args))

/-- Without a bar, the role that is found is that of a word in the first stage. -/
lemma isRole_roleInFirst (g : Grammar) (done : List String) (begun : Bool) :
    IsRole g begun false done (roleInFirst done) := by
  cases done with
  | nil => exact .command
  | cons command args => exact .argument command args

/-- Behind a bar, the role that is found is that of a word in a later stage. -/
lemma isRole_roleInLater (g : Grammar) (done : List String) (begun : Bool) :
    IsRole g begun true done (roleInLater g done begun) := by
  unfold roleInLater
  split
  · exact .filterName
  · next name args =>
    split
    · next f hf => exact .filterArgument name args f hf
    · next hf => exact .unknown name args hf

/-- The words of the stages between the first bar of a text and its last one. -/
def earlierStages (text : List Char) : List (List String) :=
  (Line.wordsByStage text).dropLast.tail

/-- A context holds the command, the role and the used filters that the text in front of the cursor
gives. -/
lemma commandAndRole_of_parse (h : parse g line cursor = .ok c) :
    commandAndRole g (Text.beforeByte cursor line.toList) = (c.command, c.role, c.used) := by
  obtain ⟨⟨word, argument⟩, -, h⟩ := bind_eq_ok.mp h
  simp only [pure, Except.pure, Except.ok.injEq] at h
  subst h
  rfl

/-- In the first stage the completed words are all that there is. -/
lemma commandAndRole_of_first {text : List Char} (h : Line.tokens text = Line.lastWords text) :
    (commandAndRole g text).2 = (roleInFirst (Line.completedWords text), []) := by
  have hdone : Line.completedTokens text = Line.completedWords text :=
    Line.completedTokens_eq_append (h.trans (List.nil_append _).symm)
  have hbar := lastBar?_eq_none (Line.bar_notMem_completedWords text)
  simp only [commandAndRole, hdone, hbar]

/-- In a later stage, the completed words stand behind the last bar and the filters in front of
it. -/
lemma commandAndRole_of_later {text : List Char} {front : List String}
    (h : Line.tokens text = front ++ "|" :: Line.lastWords text) :
    (commandAndRole g text).2 =
      (roleInLater g (Line.completedWords text) (Line.endsInWord text), usedFilters g front) := by
  have hdone : Line.completedTokens text = front ++ "|" :: Line.completedWords text := by
    rw [List.append_cons] at h ⊢
    exact Line.completedTokens_eq_append h
  have hbar : lastBar? (front ++ "|" :: Line.completedWords text) = some front.length :=
    lastBar?_append (Line.bar_notMem_completedWords text)
  have hbehind : (front ++ "|" :: Line.completedWords text).drop (front.length + 1) =
      Line.completedWords text := by
    rw [List.append_cons]
    exact List.drop_left' List.length_append
  simp only [commandAndRole, hdone, hbar, hbehind, h, List.take_left]

/-- The filters that count as used are named by the stages between the first bar and the last. -/
lemma used_of_parse (h : parse g line cursor = .ok c) :
    let text := Text.beforeByte cursor line.toList
    c.used =
      (((earlierStages text).filterMap List.head?).map Text.lowercase).filter g.isFilter := by
  intro text
  have hused : (commandAndRole g text).2.2 = c.used := by rw [commandAndRole_of_parse h]
  rw [← hused, earlierStages]
  rcases Line.tokens_cases text with ⟨htokens, hwords, -⟩ | ⟨front, htokens, hwords, -⟩
  · rw [commandAndRole_of_first htokens, hwords]
    rfl
  · rw [commandAndRole_of_later htokens, hwords, List.dropLast_concat]
    exact usedFilters_eq g front

/-- The role in a context is that of a word behind the completed words of its stage. -/
lemma isRole_of_parse (h : parse g line cursor = .ok c) :
    let text := Text.beforeByte cursor line.toList
    IsRole g (Line.endsInWord text) (decide (2 ≤ (Line.stages (.ofList text)).length))
      (Line.completedWords text) c.role := by
  intro text
  have hrole : (commandAndRole g text).2.1 = c.role := by rw [commandAndRole_of_parse h]
  rw [← hrole]
  rcases Line.tokens_cases text with ⟨htokens, -, hlength⟩ | ⟨front, htokens, -, hlength⟩
  · rw [commandAndRole_of_first htokens, hlength]
    exact isRole_roleInFirst g _ _
  · rw [commandAndRole_of_later htokens, decide_eq_true hlength]
    exact isRole_roleInLater g _ _

/-! ### The answers of a context -/

/-- What a context answers at the end of a text, behind completed words. -/
structure Classifies (g : Grammar) (text : List Char) (done : List String) (c : Context) :
    Prop where
  /-- As many stages are counted as the text has when it is run. -/
  isPiped_iff : c.isPiped = true ↔ 2 ≤ (Line.stages (.ofList text)).length
  wordIndex_eq : c.wordIndex = done.length
  isAfterBar_iff : c.isAfterBar = true ↔ c.isPiped = true ∧ Line.lastWords text = []
  isSome_filter?_iff : c.filter?.isSome = true ↔ c.isPiped = true ∧
    ∃ name ∈ done.head?, ∃ f ∈ g.filters, Text.sameIgnoringCase f.name name = true
  /-- The filter is one of the grammar, and the completed words behind its name are its
  arguments. -/
  filter_spec : ∀ f ∈ c.filter?, f ∈ g.filters ∧ ∃ name,
    done = name :: c.filterArgs ∧ Text.sameIgnoringCase f.name name = true
  filterArg_eq : ∀ f ∈ c.filter?, ∀ index, c.filterArg index = (done[index + 1]?).getD ""
  not_both : ¬ (c.isAfterBar = true ∧ c.filter?.isSome = true)
  /-- An earlier filter is named by the first word of its stage, quotes and all. -/
  used_eq : c.used =
    (((earlierStages text).filterMap List.head?).map Text.lowercase).filter g.isFilter

section Answers

variable {begun later : Bool} {done : List String}

/-- The role says whether the word is behind a bar. -/
lemma IsRole.isPiped_eq (h : IsRole g begun later done c.role) : c.isPiped = later := by
  unfold isPiped
  generalize c.role = role at h
  cases h <;> rfl

/-- The role says how many words of the stage are completed. -/
lemma IsRole.wordIndex_eq (h : IsRole g begun later done c.role) :
    c.wordIndex = done.length := by
  unfold wordIndex
  generalize c.role = role at h
  cases h <;> rfl

/-- The cursor stands right behind a bar if nothing of the stage has been typed. -/
lemma IsRole.isAfterBar_iff (h : IsRole g begun later done c.role) :
    c.isAfterBar = true ↔ later = true ∧ done = [] ∧ begun = false := by
  unfold isAfterBar
  generalize c.role = role at h
  cases h <;> simp

/-- The filter of a context is the one that the first completed word behind a bar names. -/
lemma IsRole.filter?_eq (h : IsRole g begun later done c.role) :
    c.filter? = if later then done.head?.bind g.filter? else none := by
  unfold filter?
  generalize c.role = role at h
  cases h with
  | command => rfl
  | argument command args => rfl
  | filterName => rfl
  | filterArgument name args f isFilter => exact isFilter.symm
  | unknown name args isOther => exact isOther.symm

/-- The arguments of the filter are the completed words behind its name. -/
lemma IsRole.filterArgs_eq (h : IsRole g begun later done c.role) {f : FilterDef}
    (hf : c.filter? = some f) : c.filterArgs = done.tail := by
  unfold filter? at hf
  unfold filterArgs
  generalize c.role = role at h hf
  cases h with
  | filterArgument name args f isFilter => rfl
  | _ => exact absurd hf (by simp)

end Answers

/-- Every context answers for the completed words of its stage. -/
theorem exists_classifies_of_parse (h : parse g line cursor = .ok c) :
    ∃ done, Line.CompletedWords (Text.beforeByte cursor line.toList) done ∧
      Classifies g (Text.beforeByte cursor line.toList) done c := by
  have hrole := isRole_of_parse h
  have hused := used_of_parse h
  generalize Text.beforeByte cursor line.toList = text at hrole hused
  have hpiped : c.isPiped = true ↔ 2 ≤ (Line.stages (.ofList text)).length := by
    rw [hrole.isPiped_eq, decide_eq_true_iff]
  have hafter : c.isAfterBar = true ↔ c.isPiped = true ∧ Line.lastWords text = [] := by
    rw [hrole.isAfterBar_iff, hrole.isPiped_eq, Line.lastWords_eq_nil_iff]
  have hfilter : ∀ f, c.filter? = some f ↔
      c.isPiped = true ∧ ∃ name ∈ (Line.completedWords text).head?, g.filter? name = some f := by
    intro f
    rw [hrole.filter?_eq, ← hrole.isPiped_eq, Option.ite_none_right_eq_some,
      Option.bind_eq_some_iff]
    rfl
  refine ⟨Line.completedWords text, Line.completedWords_spec text,
    { isPiped_iff := hpiped
      wordIndex_eq := hrole.wordIndex_eq
      isAfterBar_iff := hafter
      isSome_filter?_iff := ?isFilter
      filter_spec := ?filter
      filterArg_eq := ?argument
      not_both := ?both
      used_eq := hused }⟩
  case isFilter =>
    rw [Option.isSome_iff_exists]
    constructor
    · rintro ⟨f, hf⟩
      obtain ⟨hlater, name, hname, hfound⟩ := (hfilter f).mp hf
      exact ⟨hlater, name, hname, f, Grammar.filter?_spec hfound⟩
    · rintro ⟨hlater, name, hname, hsame⟩
      obtain ⟨f, hf⟩ := Option.isSome_iff_exists.mp (Grammar.isSome_filter?_iff.mpr hsame)
      exact ⟨f, (hfilter f).mpr ⟨hlater, name, hname, hf⟩⟩
  case filter =>
    intro f hf
    obtain ⟨-, name, hname, hfound⟩ := (hfilter f).mp hf
    obtain ⟨hmem, hsame⟩ := Grammar.filter?_spec hfound
    refine ⟨hmem, name, ?_, hsame⟩
    rw [hrole.filterArgs_eq hf]
    exact (List.cons_head?_tail hname).symm
  case argument =>
    intro f hf index
    rw [filterArg, hrole.filterArgs_eq hf, List.getElem?_tail]
  case both =>
    rintro ⟨hbar, hsome⟩
    obtain ⟨f, hf⟩ := Option.isSome_iff_exists.mp hsome
    obtain ⟨-, name, hname, -⟩ := (hfilter f).mp hf
    obtain ⟨hnil, -⟩ := Line.lastWords_eq_nil_iff.mp (hafter.mp hbar).2
    simp [hnil] at hname

/-- Behind an empty stage and with bars between quotes, a filter is told by its name in any case,
and the argument that is being typed is not counted. -/
theorem exists_classifies_emptyStage :
    let line := "ls | Limit 3 || Sort-By \"a | b\" de"
    ∃ c, parse .standard line 99 = .ok c ∧
      (c.filter?.map FilterDef.name, c.filterArgs, c.used) =
        (some "sort-by", ["\"a | b\""], ["limit"]) ∧
      ∃ done, Line.CompletedWords (Text.beforeByte 99 line.toList) done ∧
        Classifies .standard (Text.beforeByte 99 line.toList) done c := by
  intro line
  have hparse : parse .standard line 99 = .ok
      { command := "ls"
        role := .filterArgument ⟨"sort-by", [{ kind := .field }, { kind := .direction }]⟩
          ["\"a | b\""]
        used := ["limit"]
        word := "de"
        argument := "de" } := by
    decide +kernel
  exact ⟨_, hparse, rfl, exists_classifies_of_parse hparse⟩

end Context

end TableShell
