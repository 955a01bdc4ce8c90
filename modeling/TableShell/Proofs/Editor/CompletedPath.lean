import TableShell.Proofs.Completion.Soundness
import TableShell.Proofs.Editor.Cycling
import TableShell.Proofs.Line.LastWord

/-!
# Paths that are completed

The editor puts the name of a file into a line as it is, and adds no quotes. So the path that is on
the line then, the directory that was typed and the name behind it, need not be the last word of the
line when the line is run: a name can hold a blank, a bar or a quote. This module says when it is,
for every line with the cursor at its end and every name that is offered. The one exception is a
path of nothing but blanks, which can be the last word by chance.

What is typed of the argument may hold quotes that are closed again. The path is not the last word
then: quotes in a directory stay in the path, and the quotes in a name are in every name that is
offered for it.
-/

namespace TableShell

/-! ### Where the argument starts -/

namespace Context

variable {text word argument head : List Char} {g : Grammar} {line : String} {cursor : Nat}
  {c : Context}

/-- The path in which a name stands for the word: the directory in front of the word, and the
name. -/
def pathWith (c : Context) (name : String) : String :=
  .ofList (splitPath c.argument.toList).1 ++ name

/-- An argument is its directory and the name behind it. -/
lemma splitPath_append (argument : List Char) :
    (splitPath argument).1 ++ (splitPath argument).2 = argument := by
  unfold splitPath
  cases hcut : Text.cutLastWhere isSeparator argument with
  | none => rfl
  | some parts =>
    obtain ⟨dir, name⟩ := parts
    obtain ⟨c, rfl, -, -⟩ := Text.cutLastWhere_eq_some.mp hcut
    simp

/-- A text is cut behind a character of the kind, or at its start. -/
lemma getLast?_of_textAfter {ends : Char → Bool}
    (h : textAfter ends (head ++ argument) = .ok argument) :
    ∀ c ∈ head.getLast?, ends c = true := by
  have htail := eq_rtakeWhile_of_textAfter h
  have hsplit : (head ++ argument).rdropWhile (fun c => !ends c) ++
      (head ++ argument).rtakeWhile (fun c => !ends c) = head ++ argument :=
    List.rdropWhile_append_rtakeWhile
  rw [← htail] at hsplit
  have hhead := List.append_cancel_right hsplit
  intro c hc
  obtain ⟨hne, rfl⟩ := List.mem_getLast?_eq_getLast hc
  have hnot := List.rdropWhile_last_not (fun c => !ends c) (head ++ argument) (by rwa [hhead])
  simp only [hhead] at hnot
  simpa using hnot

/-- In an open quote, a text is cut behind the quote. -/
lemma getLast?_of_openQuote? {quote : Nat}
    (hquote : Line.openQuote? (head ++ argument) = some quote)
    (h : textFrom (quote + 1) (head ++ argument) = .ok argument) : head.getLast? = some '"' := by
  obtain ⟨before, hbefore, hlength⟩ := textFrom_eq_ok.mp h
  obtain rfl := List.append_cancel_right hbefore
  obtain ⟨outer, inner, htext, houter⟩ := Line.openQuote?_eq_some hquote
  have hsize : '"'.utf8Size = 1 := rfl
  have hcut : Text.cutAtByte? (quote + 1) (head ++ argument) = some (outer ++ ['"'], inner) :=
    Text.cutAtByte?_eq_some.mpr ⟨by simp [htext], by simp [houter, hsize]⟩
  rw [Text.cutAtByte?_eq_some.mpr ⟨rfl, hlength⟩] at hcut
  obtain ⟨rfl, -⟩ := Prod.mk.inj (Option.some.inj hcut)
  simp

/-- In front of an argument without quotes, an argument starts. -/
lemma startsArgument_of_wordAndArgument
    (h : wordAndArgument (head ++ argument) = .ok (word, argument)) (hquote : '"' ∉ argument) :
    Line.StartsArgument head := by
  have hcount : (head ++ argument).count '"' = head.count '"' := by
    rw [List.count_append, List.count_eq_zero.mpr hquote, Nat.add_zero]
  have hopen := Line.isSome_openQuote? (head ++ argument)
  rw [hcount] at hopen
  obtain ⟨plainWord, -, h⟩ := bind_eq_ok.mp h
  obtain ⟨plainArgument, hargument, h⟩ := bind_eq_ok.mp h
  cases hquoted : Line.openQuote? (head ++ argument) with
  | none =>
    rw [hquoted] at h hopen
    simp only [pure, Except.pure, Except.ok.injEq, Prod.mk.injEq] at h
    obtain ⟨-, rfl⟩ := h
    refine ⟨fun _ => getLast?_of_textAfter hargument, fun hodd => ?_⟩
    simp [hodd] at hopen
  | some quote =>
    rw [hquoted] at h hopen
    obtain ⟨quoted, hfrom, h⟩ := bind_eq_ok.mp h
    obtain ⟨quotedWord, -, h⟩ := bind_eq_ok.mp h
    simp only [pure, Except.pure, Except.ok.injEq, Prod.mk.injEq] at h
    obtain ⟨-, rfl⟩ := h
    refine ⟨fun heven => ?_, fun _ => getLast?_of_openQuote? hquoted hfrom⟩
    simp [heven] at hopen

/-- In front of the argument of a context an argument starts, if there are no quotes in it. -/
lemma startsArgument_of_parse (h : parse g line cursor = .ok c)
    (htext : Text.beforeByte cursor line.toList = head ++ c.argument.toList)
    (hquote : '"' ∉ c.argument.toList) : Line.StartsArgument head := by
  obtain ⟨⟨word, argument⟩, hparts, h⟩ := bind_eq_ok.mp h
  simp only [pure, Except.pure, Except.ok.injEq] at h
  subst h
  rw [String.toList_ofList] at htext hquote
  rw [htext] at hparts
  exact startsArgument_of_wordAndArgument hparts hquote

/-- Without a bar in front of it, the word is replaced as a whole. -/
lemma wordParts_of_isPiped_eq_false (h : c.isPiped = false) :
    Suggester.wordParts c = ([], c.word.toList) := by
  unfold isPiped at h
  unfold Suggester.wordParts
  cases hrole : c.role with
  | filterArgument filter done =>
    rw [hrole] at h
    cases h
  | _ => rfl

/-- Where a name stands for a word that it begins with, the path has the quotes of the argument. -/
lemma notMem_quote_argument {name : String}
    (hname : (splitPath c.argument.toList).2 = c.word.toList)
    (hbegins : Text.startsFolded name c.word = true) (h : '"' ∉ (c.pathWith name).toList) :
    '"' ∉ c.argument.toList := by
  rw [pathWith, String.toList_append, String.toList_ofList, List.mem_append, not_or] at h
  rw [← splitPath_append c.argument.toList, hname, List.mem_append, not_or]
  refine ⟨h.1, fun hword => h.2 ?_⟩
  have hstart := List.isPrefixOf_iff_prefix.mp hbegins
  exact Text.quote_mem_lowerChars.mp (hstart.subset (Text.quote_mem_lowerChars.mpr hword))

/-- A path that stands for the argument is the last word of the line exactly if it fits behind the
text in front of the argument. -/
lemma lastWord?_append_pathWith_iff {name : String} (h : parse g line cursor = .ok c)
    (htext : Text.beforeByte cursor line.toList = head ++ c.argument.toList)
    (hbegins : Text.startsFolded name c.word = true)
    (hpath : Text.isBlankText (c.pathWith name) = false) :
    Line.lastWord? (.ofList head ++ c.pathWith name) = some (c.pathWith name) ↔
      Line.FitsBehind head (c.pathWith name).toList := by
  have hnot : ∃ x ∈ (c.pathWith name).toList, Text.isBlank x = false := by
    simpa [Text.isBlankText] using hpath
  have hstarts : '"' ∉ (c.pathWith name).toList → Line.StartsArgument head := by
    intro hquote
    have hargument := notMem_quote_argument (splitPath_of_parse h) hbegins hquote
    exact startsArgument_of_parse h htext hargument
  generalize c.pathWith name = path at hnot hstarts
  have hline : .ofList head ++ path = String.ofList (head ++ path.toList) := by
    rw [String.ofList_append, String.ofList_toList]
  have hword : '"' ∉ path.toList →
      (Line.lastWord? (.ofList head ++ path) = some path ↔ Line.FitsBehind head path.toList) := by
    intro hquote
    have hiff := Line.lastWord?_append_eq_iff (hstarts hquote) hnot
    rwa [← hline, String.ofList_toList] at hiff
  constructor
  · intro h
    exact (hword (Line.notMem_quote_of_lastWord? h)).mp h
  · intro h
    exact (hword h.noQuote).mpr h

end Context

/-! ### What the editor shows -/

namespace Editor

variable {e : Editor} {s : Suggester} {c : Context} {completion : Completion} {i : Nat}
  {candidate : String}

/-- A candidate is put in place of the end of the line, where the cursor stands. -/
lemma exists_showCandidate_atEnd {before typed : List Char} (hend : e.line.isAtEnd = true)
    (htext : e.line.text.toList = before ++ typed)
    (hfrom : completion.replaceFrom = Text.byteLength before)
    (hcandidate : completion.candidates[i]? = some candidate) :
    ∃ e', e.showCandidate (completion.cycle e.line i) = .ok e' ∧
      e'.line = .atEnd (.ofList before ++ candidate) := by
  have hline : e.line = (Zipper.mk (before ++ typed) []).line := by
    have htext' : e.line.text = .ofList (before ++ typed ++ []) := by
      rw [List.append_nil, ← htext, String.ofList_toList]
    have hcursor : e.line.cursor = Text.byteLength (before ++ typed) := by
      rw [← htext, Text.byteLength_toList]
      exact beq_iff_eq.mp hend
    cases hcase : e.line
    rw [hcase] at htext' hcursor
    exact (LineBuffer.mk.injEq ..).mpr ⟨htext', hcursor⟩
  have hindex : i % completion.candidates.length = i :=
    Nat.mod_eq_of_lt (List.getElem?_eq_some_iff.mp hcandidate).1
  have hreplace : e.line.replaceBack? completion.replaceFrom candidate =
      some (.atEnd (.ofList before ++ candidate)) := by
    rw [hline, hfrom, Zipper.replaceBack?_line, Zipper.line, List.append_nil, String.ofList_append,
      String.ofList_toList]
    simp [LineBuffer.atEnd, Text.byteLength_toList]
  refine ⟨{ e with
    line := .atEnd (.ofList before ++ candidate)
    cycle? := some (completion.cycle e.line i) }, ?_, rfl⟩
  unfold showCandidate
  simp only [Completion.cycle, hindex, hcandidate, hreplace]
  rfl

/-- A name that is shown in a line without bars makes a path of the argument at the cursor. The path
is the last word of the line that is run exactly if it fits behind the text in front of the
argument. Whether it does can be read off the path and that text: the path holds no quote; outside
of quotes it holds no blank and no bar either, and in an open quote it does not end in a blank and
its word is empty up to that quote. -/
theorem exists_shown_path (hentries : s.sources.EntriesBegin) (hend : e.line.isAtEnd = true)
    (hcontext : Context.parse s.grammar e.line.text e.line.cursor = .ok c)
    (hpiped : c.isPiped = false)
    (hcomplete : s.complete e.line.text e.line.cursor = .ok completion)
    (hcandidate : completion.candidates[i]? = some candidate)
    (hpath : Text.isBlankText (c.pathWith candidate) = false) :
    ∃ head e', e.line.text.toList = head ++ c.argument.toList ∧
      e.showCandidate (completion.cycle e.line i) = .ok e' ∧
      e'.line = .atEnd (.ofList head ++ c.pathWith candidate) ∧
      (Line.lastWord? e'.line.text = some (c.pathWith candidate) ↔
        Line.FitsBehind head (c.pathWith candidate).toList) := by
  have hcursor : e.line.cursor = e.line.text.utf8ByteSize := beq_iff_eq.mp hend
  have hbefore : Text.beforeByte e.line.cursor e.line.text.toList = e.line.text.toList := by
    rw [hcursor, Text.beforeByte_utf8ByteSize]
  have hname := Context.splitPath_of_parse hcontext
  obtain ⟨head, hhead⟩ := Context.argument_suffix_of_parse hcontext
  have htext : e.line.text.toList =
      head ++ (Context.splitPath c.argument.toList).1 ++ c.word.toList := by
    rw [← hname, List.append_assoc, Context.splitPath_append, hhead, hbefore]
  have hparts := Context.wordParts_of_isPiped_eq_false hpiped
  rw [Suggester.complete_eq_ok hcontext] at hcomplete
  obtain rfl := Except.ok.inj hcomplete
  -- The candidate goes behind the directory.
  obtain ⟨start, hstart, hfrom⟩ := Suggester.exists_replaced_candidatesIn s hcontext
  rw [hbefore, hparts, htext] at hstart
  obtain rfl := List.append_cancel_right hstart
  obtain ⟨e', hshow, hline⟩ := exists_showCandidate_atEnd hend htext hfrom.symm hcandidate
  have hpathEnd : e'.line = .atEnd (.ofList head ++ c.pathWith candidate) := by
    rw [hline, Context.pathWith, String.ofList_append, String.append_assoc]
  refine ⟨head, e', by rw [hhead, hbefore], hshow, hpathEnd, ?_⟩
  have hbegins : Text.startsFolded candidate c.word = true := by
    have hmem := List.mem_of_getElem? hcandidate
    have hfolded := Suggester.startsFolded_of_mem_candidatesIn hentries hname hmem
    rwa [hparts, String.ofList_toList] at hfolded
  rw [hpathEnd]
  exact Context.lastWord?_append_pathWith_iff hcontext hhead.symm hbegins hpath

/-! ### Lines -/

/-- An editor in which a directory with a blank in its name has been typed behind a quote. -/
def quotedDirectory : Editor where
  line := .atEnd "cat \"my dir/no"

/-- The context of its cursor. -/
def quotedDirectoryContext : Context where
  command := "cat"
  role := .argument []
  used := []
  word := "no"
  argument := "my dir/no"

/-- A file in that directory, with a blank in its name as well. -/
def spacedNotes : Suggester :=
  .completingEntries [⟨"notes 1.txt", false⟩]

/-- The completion of what has been typed of the file. -/
def spacedNotesCompletion : Completion where
  candidates := ["notes 1.txt"]
  replaceFrom := 12

/-- In particular a file in a directory between quotes is reached, although there are blanks in the
path. -/
theorem exists_shown_path_quotedDirectory :
    spacedNotes.sources.EntriesBegin ∧ quotedDirectory.line.isAtEnd = true ∧
      Context.parse spacedNotes.grammar quotedDirectory.line.text quotedDirectory.line.cursor =
        .ok quotedDirectoryContext ∧
      quotedDirectoryContext.isPiped = false ∧
      spacedNotes.complete quotedDirectory.line.text quotedDirectory.line.cursor =
        .ok spacedNotesCompletion ∧
      spacedNotesCompletion.candidates[0]? = some "notes 1.txt" ∧
      Text.isBlankText (quotedDirectoryContext.pathWith "notes 1.txt") = false ∧
      ∃ e', quotedDirectory.showCandidate (spacedNotesCompletion.cycle quotedDirectory.line 0) =
          .ok e' ∧
        Line.lastWord? e'.line.text = some "my dir/notes 1.txt" := by
  have hentries : spacedNotes.sources.EntriesBegin := Suggester.entriesBegin_completingEntries _
  have hparse : Context.parse spacedNotes.grammar quotedDirectory.line.text
      quotedDirectory.line.cursor = .ok quotedDirectoryContext := by decide +kernel
  have hcomplete : spacedNotes.complete quotedDirectory.line.text quotedDirectory.line.cursor =
      .ok spacedNotesCompletion := by decide +kernel
  have hcandidate : spacedNotesCompletion.candidates[0]? = some "notes 1.txt" := rfl
  have hpath : quotedDirectoryContext.pathWith "notes 1.txt" = "my dir/notes 1.txt" := by
    decide +kernel
  have hblank : Text.isBlankText (quotedDirectoryContext.pathWith "notes 1.txt") = false := by
    decide +kernel
  obtain ⟨head, e', htext, hshow, -, hiff⟩ :=
    exists_shown_path hentries rfl hparse rfl hcomplete hcandidate hblank
  rw [hpath] at hiff
  refine ⟨hentries, rfl, hparse, rfl, hcomplete, hcandidate, hblank, e', hshow, hiff.mpr ?_⟩
  have hhead : head = "cat \"".toList := by
    have hsplit : head ++ quotedDirectoryContext.argument.toList =
        "cat \"".toList ++ quotedDirectoryContext.argument.toList := by
      rw [← htext]
      decide +kernel
    exact List.append_cancel_right hsplit
  subst hhead
  constructor
  · decide +kernel
  · intro hclosed
    exact absurd hclosed (by decide +kernel)
  · intro _
    have hlast : "my dir/notes 1.txt".toList.getLast? = some 't' := by decide +kernel
    refine ⟨by decide +kernel, fun c hc => ?_⟩
    rw [hlast, Option.mem_some_iff] at hc
    subst hc
    decide

/-- An editor in which the first letters of a name have been typed. -/
def unquotedName : Editor where
  line := .atEnd "cat my"

/-- A file that is offered outside of quotes is not reached if its name has a blank: the last word
begins behind it. -/
theorem shown_path_ends_at_blank :
    (Suggester.completingEntries [⟨"my file.txt", false⟩]).sources.EntriesBegin ∧
      ∃ c completion e', unquotedName.line.isAtEnd = true ∧
        Context.parse .standard unquotedName.line.text unquotedName.line.cursor = .ok c ∧
        c.role = .argument [] ∧ Grammar.standard.argumentAfter c.command [] = .file ∧
        (Suggester.completingEntries [⟨"my file.txt", false⟩]).complete unquotedName.line.text
          unquotedName.line.cursor = .ok completion ∧
        completion.candidates[0]? = some "my file.txt" ∧
        unquotedName.showCandidate (completion.cycle unquotedName.line 0) = .ok e' ∧
        e'.line.text = "cat my file.txt" ∧ c.pathWith "my file.txt" = "my file.txt" ∧
        Line.lastWord? e'.line.text = some "file.txt" := by
  refine ⟨Suggester.entriesBegin_completingEntries _,
    ⟨"cat", .argument [], [], "my", "my"⟩, ⟨["my file.txt"], 4⟩,
    { line := .atEnd "cat my file.txt"
      cycle? := some ⟨unquotedName.line, ["my file.txt"], 0, 4⟩ },
    ?_, ?_, rfl, ?_, ?_, rfl, ?_, rfl, ?_, ?_⟩
  all_goals decide +kernel

end Editor

end TableShell
