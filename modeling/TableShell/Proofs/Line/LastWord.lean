import Mathlib.Data.List.DropRight
import TableShell.Line.Context
import TableShell.Proofs.Line.Agreement
import TableShell.Proofs.Line.Characters

/-!
# The last word of a line

What a line ends in when it is run, and what becomes of a text that is written at its end. The text
is the last word exactly if nothing in it is taken for something else: no quote anywhere, outside
of quotes no blank and no bar, and in an open quote no blank at its end, where the stage is trimmed.
In an open quote its word must be empty up to that quote as well, since the quote and what stands
in front of it without a gap belong to one word.
-/

namespace TableShell.Line

open TableShell.Context (endsArgument)

variable {text head path : List Char}

/-- The last word of the last stage of a line. -/
def lastWord? (line : String) : Option String :=
  (stages line).getLast?.bind fun stage => (words stage).getLast?

/-- The last stage of a text, with the blanks around it. -/
def lastStage (text : List Char) : List Char :=
  (text.foldl StageScan.step {}).current

/-- The last word is read from the last stage without the blanks around it. -/
lemma lastWord?_ofList (text : List Char) :
    lastWord? (.ofList text) = (rawWords (Text.trimChars (lastStage text))).getLast? := by
  have hstages : (stages (.ofList text)).getLast? =
      some (.ofList (Text.trimChars (lastStage text))) := by
    rw [stages, String.toList_ofList, rawStages, List.map_append, List.map_cons, List.map_nil,
      List.getLast?_concat]
    rfl
  rw [lastWord?, hstages, Option.bind_some, words_eq_rawWords, String.toList_ofList]

/-- Words have no quotes. -/
lemma notMem_quote_of_mem_words {stage word : String} (h : word ∈ words stage) :
    '"' ∉ word.toList := by
  have hstep : ∀ s : WordScan, WordScan.Holds (· ≠ '"') s → ∀ c, (s.step c).Holds (· ≠ '"') := by
    intro s hs c
    by_cases hc : c = '"'
    · rw [hc, WordScan.step_quote]
      exact ⟨hs.ended, hs.current⟩
    · exact hs.step hc
  have hstart : WordScan.Holds (· ≠ '"') {} := ⟨by simp, by simp⟩
  have hend : (stage.toList.foldl WordScan.step {}).Holds (· ≠ '"') :=
    List.foldlRecOn _ _ hstart fun s hs c _ => hstep s hs c
  intro hmem
  exact hend.endWord.ended word h '"' hmem rfl

/-- The last word holds no quote. -/
lemma notMem_quote_of_lastWord? {line word : String} (h : lastWord? line = some word) :
    '"' ∉ word.toList := by
  obtain ⟨stage, -, hword⟩ := Option.bind_eq_some_iff.mp h
  exact notMem_quote_of_mem_words (List.mem_of_getLast? hword)

/-! ### Reading on -/

/-- Characters that are neither quotes nor bars belong to the stage, and so do bars between
quotes. -/
lemma StageScan.foldl_step_of_plain {s : StageScan} (hquote : '"' ∉ path)
    (hbar : '|' ∈ path → s.quoted = true) :
    path.foldl step s = { s with current := s.current ++ path } := by
  induction path generalizing s with
  | nil => simp
  | cons c path ih =>
    obtain ⟨hc, hquote⟩ := List.ne_and_not_mem_of_not_mem_cons hquote
    have hstep : s.step c = { s with current := s.current ++ [c] } := by
      have hcond : (c == '|' && !s.quoted) = false := by
        by_cases hbarc : c = '|'
        · simp [hbar (by simp [hbarc])]
        · simp [hbarc]
      simp [step, hc.symm, hcond]
    have hbar' : '|' ∈ path → (s.step c).quoted = true := by
      intro hmem
      rw [hstep]
      exact hbar (List.mem_cons_of_mem c hmem)
    rw [List.foldl_cons, ih hquote hbar', hstep]
    simp

/-- Characters that are neither quotes nor blanks belong to the word, and so do blanks between
quotes. -/
lemma WordScan.foldl_step_of_plain {s : WordScan} (hquote : '"' ∉ path)
    (hgap : ∀ c ∈ path, Text.isBlank c = true → s.quoted = true) :
    path.foldl step s =
      { s with current := s.current ++ path, started := s.started || !path.isEmpty } := by
  induction path generalizing s with
  | nil => simp
  | cons c path ih =>
    obtain ⟨hc, hquote⟩ := List.ne_and_not_mem_of_not_mem_cons hquote
    have hstep := step_other hc.symm (hgap c List.mem_cons_self)
    have hgap' : ∀ d ∈ path, Text.isBlank d = true → (s.step c).quoted = true := by
      intro d hd hblank
      rw [hstep]
      exact hgap d (List.mem_cons_of_mem c hd) hblank
    rw [List.foldl_cons, ih hquote hgap', hstep]
    simp

/-- Reading a longer stage goes on from where reading the shorter one ended. -/
lemma scanWords_append (stage path : List Char) :
    scanWords (stage ++ path) = path.foldl WordScan.step (scanWords stage) :=
  List.foldl_append

/-- A quote is open behind the last stage of a text if it is open behind the text. -/
lemma quoted_lastStage (text : List Char) :
    (scanWords (lastStage text)).quoted = decide (text.count '"' % 2 = 1) := by
  obtain ⟨done, last, h⟩ := inStep_scan text
  unfold lastStage
  rw [h.current, quoted_stageScan]

/-- The last stage goes on with a text without quotes, if it has no bars or a quote is open. -/
lemma lastStage_append (hquote : '"' ∉ path) (hbar : '|' ∈ path → text.count '"' % 2 = 1) :
    lastStage (text ++ path) = lastStage text ++ path := by
  have hquoted : '|' ∈ path → (text.foldl StageScan.step {}).quoted = true := by
    intro hmem
    rw [quoted_stageScan, decide_eq_true_eq]
    exact hbar hmem
  unfold lastStage
  rw [List.foldl_append, StageScan.foldl_step_of_plain hquote hquoted]

/-- A word that has not begun is empty. -/
lemma current_eq_nil_of_not_started {stage : List Char} (h : (scanWords stage).started = false) :
    (scanWords stage).current = [] := by
  induction stage using List.reverseRecOn with
  | nil => rfl
  | append_singleton stage c ih =>
    rw [scanWords_concat] at h ⊢
    by_cases hquote : c = '"'
    · rw [hquote, WordScan.step_quote] at h
      cases h
    by_cases hgap : Text.isBlank c = true → (scanWords stage).quoted = true
    · rw [WordScan.step_other hquote hgap] at h
      cases h
    · obtain ⟨hc, hclosed⟩ := Classical.not_imp.mp hgap
      rw [WordScan.step_blank_of_closed hc (by simpa using hclosed)] at h ⊢
      cases hstarted : (scanWords stage).started with
      | false => simpa [WordScan.endWord, hstarted] using ih hstarted
      | true => simp [WordScan.endWord, hstarted]

/-! ### Outside of quotes -/

/-- Outside of quotes nothing has begun at the start of a line, behind a blank or behind a bar. -/
lemma not_started_lastStage (hclosed : head.count '"' % 2 = 0)
    (hhead : ∀ c ∈ head.getLast?, endsArgument c = true) :
    (scanWords (lastStage head)).started = false := by
  rcases List.eq_nil_or_concat head with rfl | ⟨before, c, rfl⟩
  · rfl
  have hc : endsArgument c = true := hhead c (by simp)
  have hquote : c ≠ '"' := by
    rintro rfl
    exact absurd hc (by decide)
  have hbefore : before.count '"' % 2 = 0 := by
    rwa [List.concat_eq_append, List.count_append, List.count_singleton,
      if_neg (by simpa using hquote), Nat.add_zero] at hclosed
  have hquoted : (before.foldl StageScan.step {}).quoted = false := by
    rw [quoted_stageScan, decide_eq_false_iff_not]
    omega
  rcases (Bool.or_eq_true _ _).mp hc with hblank | hbar
  · have hne : c ≠ '|' := by
      rintro rfl
      exact absurd hblank (by decide)
    have hstage : lastStage (before.concat c) = lastStage before ++ [c] := by
      rw [List.concat_eq_append]
      exact lastStage_append (by simpa using hquote.symm) (by simp [hne.symm])
    have hstill : (scanWords (lastStage before)).quoted = false := by
      rw [quoted_lastStage, decide_eq_false_iff_not]
      omega
    rw [hstage, scanWords_concat, WordScan.step_blank_of_closed hblank hstill, WordScan.endWord]
    split
    · rfl
    · next hstarted => simpa using hstarted
  · have hstage : lastStage (before.concat c) = [] := by
      rw [beq_iff_eq.mp hbar, lastStage, List.concat_eq_append, List.foldl_append, List.foldl_cons,
        List.foldl_nil]
      simp [StageScan.step, hquoted]
    rw [hstage]
    rfl

/-- Behind a blank or a bar outside of quotes, a text without blanks, bars and quotes is the last
word. -/
lemma lastWord?_append_of_closed (hclosed : head.count '"' % 2 = 0)
    (hhead : ∀ c ∈ head.getLast?, endsArgument c = true) (hquote : '"' ∉ path) (hne : path ≠ [])
    (hplain : ∀ c ∈ path, endsArgument c = false) :
    lastWord? (.ofList (head ++ path)) = some (.ofList path) := by
  have hgap : ∀ c ∈ path, Text.isBlank c = false ∧ c ≠ '|' := by
    intro c hc
    simpa [endsArgument] using hplain c hc
  have hbar : '|' ∉ path := fun hmem => (hgap '|' hmem).2 rfl
  have hstage : lastStage (head ++ path) = lastStage head ++ path :=
    lastStage_append hquote fun hmem => absurd hmem hbar
  have hscan : scanWords (lastStage head ++ path) =
      { scanWords (lastStage head) with current := path, started := true } := by
    have hstarted := not_started_lastStage hclosed hhead
    have hblank : ∀ c ∈ path, Text.isBlank c = true →
        (scanWords (lastStage head)).quoted = true := by
      intro c hc hblank
      rw [(hgap c hc).1] at hblank
      cases hblank
    rw [scanWords_append, WordScan.foldl_step_of_plain hquote hblank,
      current_eq_nil_of_not_started hstarted]
    simp [hne]
  have hquoted : (scanWords (lastStage head ++ path)).quoted = false := by
    rw [hscan, quoted_lastStage, decide_eq_false_iff_not]
    omega
  rw [lastWord?_ofList, hstage, rawWords_trim_of_closed hquoted, rawWords, hscan]
  simp [WordScan.endWord]

/-- Outside of quotes, blanks at the end of a line do not matter. -/
lemma lastWord?_append_blanks {blanks : List Char} (hclosed : text.count '"' % 2 = 0)
    (hblanks : ∀ c ∈ blanks, Text.isBlank c = true) :
    lastWord? (.ofList (text ++ blanks)) = lastWord? (.ofList text) := by
  have hquote : '"' ∉ blanks := fun hmem => absurd (hblanks _ hmem) (by decide)
  have hbar : '|' ∉ blanks := fun hmem => absurd (hblanks _ hmem) (by decide)
  have hquoted : (scanWords (lastStage text)).quoted = false := by
    rw [quoted_lastStage, decide_eq_false_iff_not]
    omega
  have hsame := endWord_scanWords_append_blanks hblanks hquoted
  have hstill : (scanWords (lastStage text ++ blanks)).quoted = false := by
    rw [← WordScan.quoted_endWord, hsame, WordScan.quoted_endWord, hquoted]
  rw [lastWord?_ofList, lastWord?_ofList, lastStage_append hquote fun hmem => absurd hmem hbar,
    rawWords_trim_of_closed hstill, rawWords_trim_of_closed hquoted, rawWords, rawWords, hsame]

/-- A line that ends in a bar outside of quotes has no last word. -/
lemma lastWord?_concat_bar (hclosed : text.count '"' % 2 = 0) :
    lastWord? (.ofList (text ++ ['|'])) = none := by
  have hquoted : (text.foldl StageScan.step {}).quoted = false := by
    rw [quoted_stageScan, decide_eq_false_iff_not]
    omega
  have hstage : lastStage (text ++ ['|']) = [] := by
    rw [lastStage, List.foldl_append, List.foldl_cons, List.foldl_nil]
    simp [StageScan.step, hquoted]
  rw [lastWord?_ofList, hstage]
  rfl

/-- The last word of a line that ends in a word outside of quotes is the end of that word, from the
last blank or bar on. -/
lemma lastWord?_append_concat {last : Char} (hclosed : head.count '"' % 2 = 0)
    (hhead : ∀ c ∈ head.getLast?, endsArgument c = true) (hquote : '"' ∉ path ++ [last])
    (hlast : endsArgument last = false) :
    lastWord? (.ofList (head ++ (path ++ [last]))) =
      some (.ofList ((path ++ [last]).rtakeWhile fun c => !endsArgument c)) := by
  generalize hword : (path ++ [last]).rtakeWhile (fun c => !endsArgument c) = word
  generalize hrest : (path ++ [last]).rdropWhile (fun c => !endsArgument c) = rest
  have hsplit : path ++ [last] = rest ++ word := by
    rw [← hword, ← hrest, List.rdropWhile_append_rtakeWhile]
  have hne : word ≠ [] := by
    rw [← hword, List.rtakeWhile_concat_pos _ _ _ (by simp [hlast])]
    simp
  have hplain : ∀ c ∈ word, endsArgument c = false := by
    intro c hc
    rw [← hword] at hc
    simpa using List.mem_rtakeWhile_imp hc
  have hgap : ∀ c ∈ (head ++ rest).getLast?, endsArgument c = true := by
    intro c hc
    rcases List.eq_nil_or_concat rest with rfl | ⟨before, d, rfl⟩
    · rw [List.append_nil] at hc
      exact hhead c hc
    · have hnot := List.rdropWhile_last_not _ (path ++ [last]) (by rw [hrest]; simp)
      simp only [hrest, List.concat_eq_append, List.getLast_concat] at hnot
      have hd : d = c := by simpa using hc
      simpa [hd] using hnot
  rw [hsplit, List.mem_append, not_or] at hquote
  have hstill : (head ++ rest).count '"' % 2 = 0 := by
    rw [List.count_append, List.count_eq_zero.mpr hquote.1, Nat.add_zero, hclosed]
  rw [hsplit, ← List.append_assoc]
  exact lastWord?_append_of_closed hstill hgap hquote.2 hne hplain

/-- Outside of quotes, only a text without blanks and bars can be the last word of a line that ends
in it. -/
lemma forall_endsArgument_of_lastWord? (hclosed : head.count '"' % 2 = 0)
    (hhead : ∀ c ∈ head.getLast?, endsArgument c = true) (hquote : '"' ∉ path)
    (hpath : ∃ c ∈ path, Text.isBlank c = false)
    (h : lastWord? (.ofList (head ++ path)) = some (.ofList path)) :
    ∀ c ∈ path, endsArgument c = false := by
  obtain ⟨blanks, hblanks, hsplit⟩ := Text.exists_eq_trimEndChars path
  rcases List.eq_nil_or_concat (Text.trimEndChars path) with htrim | ⟨before, last, htrim⟩
  · obtain ⟨c, hc, hnot⟩ := hpath
    rw [hsplit, htrim, List.nil_append] at hc
    rw [hblanks c hc] at hnot
    cases hnot
  rw [List.concat_eq_append] at htrim
  rw [htrim] at hsplit
  have hlast : Text.isBlank last = false := by
    have hmem : last ∈ (Text.trimEndChars path).getLast? := by simp [htrim]
    exact Text.isBlank_of_mem_getLast?_trimEndChars hmem
  have hquote' : '"' ∉ before ++ [last] := by
    intro hmem
    exact hquote (by rw [hsplit]; exact List.mem_append_left _ hmem)
  have hcount : ∀ part : List Char, '"' ∉ part → (head ++ part).count '"' % 2 = 0 := by
    intro part hpart
    rw [List.count_append, List.count_eq_zero.mpr hpart, Nat.add_zero, hclosed]
  -- What is trimmed makes no difference, so the last word is the last one of the rest.
  have hword : lastWord? (.ofList (head ++ (before ++ [last]))) = some (.ofList path) := by
    rw [← lastWord?_append_blanks (hcount _ hquote') hblanks, List.append_assoc, ← hsplit]
    exact h
  by_cases hbar : last = '|'
  · have hbefore : '"' ∉ before := fun hmem => hquote' (List.mem_append_left _ hmem)
    rw [hbar, ← List.append_assoc, lastWord?_concat_bar (hcount before hbefore)] at hword
    cases hword
  · have hplain : endsArgument last = false := by simp [endsArgument, hlast, hbar]
    rw [lastWord?_append_concat hclosed hhead hquote' hplain, Option.some.injEq,
      String.ofList_inj] at hword
    intro c hc
    rw [← hword] at hc
    simpa using List.mem_rtakeWhile_imp hc

/-! ### In an open quote -/

/-- A quote at the end belongs to the last stage. -/
lemma lastStage_concat_quote (text : List Char) :
    lastStage (text ++ ['"']) = lastStage text ++ ['"'] := by
  rw [lastStage, List.foldl_append, List.foldl_cons, List.foldl_nil]
  rfl

/-- In an open quote, what follows belongs to the word that the quote belongs to, up to the blanks
at its end. -/
lemma lastWord?_append_of_open (hopen : (head ++ ['"']).count '"' % 2 = 1) (hquote : '"' ∉ path) :
    lastWord? (.ofList (head ++ ['"'] ++ path)) =
      some (.ofList ((scanWords (lastStage head)).current ++ Text.trimEndChars path)) := by
  have hclosed : (scanWords (lastStage head)).quoted = false := by
    rw [quoted_lastStage, decide_eq_false_iff_not]
    rw [List.count_append, List.count_singleton_self] at hopen
    omega
  have hstage : lastStage (head ++ ['"'] ++ path) = lastStage head ++ '"' :: path := by
    rw [lastStage_append hquote fun _ => hopen, lastStage_concat_quote, List.append_assoc,
      List.singleton_append]
  have htrim : '"' ∉ Text.trimEndChars path := by
    obtain ⟨blanks, -, hsplit⟩ := Text.exists_eq_trimEndChars path
    intro hmem
    exact hquote (by rw [hsplit]; exact List.mem_append_left _ hmem)
  have hscan : scanWords (Text.trimChars (lastStage head ++ '"' :: path)) =
      (Text.trimEndChars path).foldl WordScan.step ((scanWords (lastStage head)).step '"') := by
    rw [Text.trimChars, Text.trimStartChars_append_cons _ _ (by decide),
      Text.trimEndChars_append_cons _ _ (by decide), scanWords_append, scanWords_trimStart,
      List.foldl_cons]
  have hquoted : ((scanWords (lastStage head)).step '"').quoted = true := by
    simp [WordScan.step_quote, hclosed]
  rw [lastWord?_ofList, hstage, rawWords, hscan,
    WordScan.foldl_step_of_plain htrim fun _ _ _ => hquoted, WordScan.step_quote]
  simp [WordScan.endWord]

/-- In an open quote, a text is the last word exactly if the quote opens its word and the text does
not end in a blank. -/
lemma lastWord?_append_eq_iff_of_open (hopen : (head ++ ['"']).count '"' % 2 = 1)
    (hquote : '"' ∉ path) (hpath : ∃ c ∈ path, Text.isBlank c = false) :
    lastWord? (.ofList (head ++ ['"'] ++ path)) = some (.ofList path) ↔
      lastWord? (.ofList (head ++ ['"'])) = some "" ∧
        ∀ c ∈ path.getLast?, Text.isBlank c = false := by
  have hbegun : lastWord? (.ofList (head ++ ['"'])) =
      some (.ofList (scanWords (lastStage head)).current) := by
    have hnone : '"' ∉ ([] : List Char) := by simp
    have hword := lastWord?_append_of_open hopen hnone
    rwa [List.append_nil, show Text.trimEndChars [] = [] from rfl, List.append_nil] at hword
  rw [lastWord?_append_of_open hopen hquote, hbegun, ← Text.trimEndChars_eq_self_iff]
  generalize (scanWords (lastStage head)).current = begun
  have hempty : some (String.ofList begun) = some "" ↔ begun = [] := by
    rw [Option.some.injEq, ← String.ofList_nil, String.ofList_inj]
  rw [hempty, Option.some.injEq, String.ofList_inj]
  exact Text.append_trimEndChars_eq_self_iff hpath

/-! ### Both ways -/

/-- A text ends where an argument starts: outside of quotes at its start, behind a blank or behind a
bar, and in an open quote behind the quote. -/
structure StartsArgument (head : List Char) : Prop where
  outside : head.count '"' % 2 = 0 → ∀ c ∈ head.getLast?, endsArgument c = true
  inside : head.count '"' % 2 = 1 → head.getLast? = some '"'

/-- A path can be written behind a text without anything in it being taken for something else. -/
structure FitsBehind (head path : List Char) : Prop where
  noQuote : '"' ∉ path
  outside : head.count '"' % 2 = 0 → ∀ c ∈ path, endsArgument c = false
  inside : head.count '"' % 2 = 1 →
    lastWord? (.ofList head) = some "" ∧ ∀ c ∈ path.getLast?, Text.isBlank c = false

/-- A path that is written where an argument starts is the last word of the line exactly if it fits
there. -/
theorem lastWord?_append_eq_iff (hhead : StartsArgument head)
    (hpath : ∃ c ∈ path, Text.isBlank c = false) :
    lastWord? (.ofList (head ++ path)) = some (.ofList path) ↔ FitsBehind head path := by
  by_cases hquote : '"' ∈ path
  · constructor
    · intro h
      have hnone := notMem_quote_of_lastWord? h
      rw [String.toList_ofList] at hnone
      exact absurd hquote hnone
    · intro h
      exact absurd hquote h.noQuote
  rcases Nat.mod_two_eq_zero_or_one (head.count '"') with hclosed | hopen
  · have hgap := hhead.outside hclosed
    have hne : path ≠ [] := by
      rintro rfl
      obtain ⟨c, hc, -⟩ := hpath
      cases hc
    constructor
    · intro h
      have hplain := forall_endsArgument_of_lastWord? hclosed hgap hquote hpath h
      exact ⟨hquote, fun _ => hplain, fun hopen => by omega⟩
    · intro h
      exact lastWord?_append_of_closed hclosed hgap hquote hne (h.outside hclosed)
  · obtain ⟨before, rfl⟩ := List.getLast?_eq_some_iff.mp (hhead.inside hopen)
    rw [lastWord?_append_eq_iff_of_open hopen hquote hpath]
    constructor
    · intro h
      exact ⟨hquote, fun hclosed => by omega, fun _ => h⟩
    · intro h
      exact h.inside hopen

end TableShell.Line
