import TableShell.Proofs.Completion.Names
import TableShell.Proofs.Editor.CompletedPath

/-!
# Names that are completed

Where a command, an alias, a bookmark or a subcommand is typed, the names are compared with the
piece behind the last path separator, and a candidate stands for that piece only. So what is typed
in front of it stays in the word, which is then no such name: `src/l` is completed to `src/ls`. The
word that results is a name of its kind as long as the argument has no separator, and for the first
word also where the candidate is a file of the directory that is typed.
-/

namespace TableShell

/-! ### The argument at the end of a line -/

namespace Context

variable {g : Grammar} {line : String} {c : Context}

/-- The byte at which the argument at the end of a line starts, outside of quotes. -/
def argumentStart (line : String) : Nat :=
  startAfter endsArgument line.toList

/-- Whether a directory is typed in the argument. -/
def hasDirectory (c : Context) : Bool :=
  c.argument.toList.any isSeparator

/-- Outside of quotes, the argument of a line starts behind its last blank or bar. -/
lemma exists_append_argument (hc : parse g line line.utf8ByteSize = .ok c)
    (hquote : Line.openQuote? line.toList = none) :
    ∃ head, line.toList = head ++ c.argument.toList ∧
      Text.byteLength head = argumentStart line := by
  obtain ⟨⟨word, argument⟩, hparts, hc⟩ := bind_eq_ok.mp hc
  simp only [pure, Except.pure, Except.ok.injEq] at hc
  subst hc
  rw [Text.beforeByte_utf8ByteSize] at hparts
  obtain ⟨plainWord, -, hparts⟩ := bind_eq_ok.mp hparts
  obtain ⟨plainArgument, hargument, hparts⟩ := bind_eq_ok.mp hparts
  rw [hquote] at hparts
  simp only [pure, Except.pure, Except.ok.injEq, Prod.mk.injEq] at hparts
  obtain ⟨-, rfl⟩ := hparts
  rw [String.toList_ofList]
  exact textFrom_eq_ok.mp hargument

/-- Without a directory, a name is a path by itself. -/
lemma pathWith_of_hasDirectory_eq_false (h : c.hasDirectory = false) (name : String) :
    c.pathWith name = name := by
  have hnone : ∀ x ∈ c.argument.toList, isSeparator x = false := by
    simpa [hasDirectory] using h
  rw [pathWith, splitPath, Text.cutLastWhere_eq_none.mpr hnone]
  exact String.empty_append

/-- The directory in front of the word holds a separator. -/
lemma exists_separator_of_hasDirectory (h : c.hasDirectory = true) :
    ∃ x ∈ (splitPath c.argument.toList).1, isSeparator x = true := by
  unfold hasDirectory at h
  unfold splitPath
  cases hcut : Text.cutLastWhere isSeparator c.argument.toList with
  | none =>
    obtain ⟨x, hx, hseparator⟩ := List.any_eq_true.mp h
    rw [Text.cutLastWhere_eq_none.mp hcut x hx] at hseparator
    exact absurd hseparator Bool.false_ne_true
  | some parts =>
    obtain ⟨before, after⟩ := parts
    obtain ⟨x, htext, hx, -⟩ := Text.cutLastWhere_eq_some.mp hcut
    refine ⟨x, ?_, hx⟩
    rw [htext]
    simp

/-- Different names give different paths. -/
lemma pathWith_inj {a b : String} (h : c.pathWith a = c.pathWith b) : a = b := by
  have hlists := congrArg String.toList h
  rw [pathWith, pathWith, String.toList_append, String.toList_append] at hlists
  exact String.toList_injective (List.append_cancel_left hlists)

end Context

/-- The word at the end of a line when a candidate stands in it. -/
def Completion.completedWord (completion : Completion) (line name : String) : String :=
  Text.sliceBytes (Context.argumentStart line) completion.replaceFrom line ++ name

namespace Suggester

variable {s : Suggester} {c : Context} {line name : String} {names : List String}

/-- The names of which the word at the cursor has to be one: commands and aliases for the first
word, and bookmarks, aliases or subcommands where an argument names one. -/
def wholeNames? (s : Suggester) (c : Context) : Option (List String) :=
  match c.role with
  | .command => some (s.sources.commands ++ s.sources.aliases)
  | .argument done =>
    match s.grammar.argumentAfter c.command done with
    | .bookmarkName => some s.sources.bookmarks
    | .aliasName => some s.sources.aliases
    | .subcommand => some ((s.grammar.subcommandsOf c.command).map Subcommand.name)
    | _ => none
  | _ => none

/-- A candidate names a file where the first word may be a path. -/
def NamesFile (s : Suggester) (c : Context) (name : String) : Prop :=
  c.role = .command ∧ ∃ entry ∈ s.pathEntries c, entry.name = name

/-- A word is one of the names that are asked for, or for the first word the typed directory and an
entry found in it. -/
def IsNamed (s : Suggester) (c : Context) (names : List String) (word : String) : Prop :=
  word ∈ names ∨ c.role = .command ∧ ∃ entry ∈ s.pathEntries c, c.pathWith entry.name = word

instance {names : List String} {word : String} : Decidable (s.IsNamed c names word) :=
  inferInstanceAs (Decidable (_ ∨ _ ∧ _))

/-! ### Words that result -/

/-- A candidate is put behind the directory of the argument. -/
lemma completedWord_candidatesIn (hc : Context.parse s.grammar line line.utf8ByteSize = .ok c)
    (hquote : Line.openQuote? line.toList = none) (hpiped : c.isPiped = false) (name : String) :
    (s.candidatesIn c (Text.clampByte line.utf8ByteSize line.toList)).completedWord line name =
      c.pathWith name := by
  obtain ⟨head, hline, hhead⟩ := Context.exists_append_argument hc hquote
  obtain ⟨before, hbefore, hfrom⟩ := exists_replaced_candidatesIn s hc
  rw [Context.wordParts_of_isPiped_eq_false hpiped, Text.beforeByte_utf8ByteSize] at hbefore
  have hsplit := Context.splitPath_append c.argument.toList
  rw [Context.splitPath_of_parse hc] at hsplit
  have htext : line.toList = head ++ (Context.splitPath c.argument.toList).1 ++ c.word.toList := by
    rw [List.append_assoc, hsplit, hline]
  obtain rfl : before = head ++ (Context.splitPath c.argument.toList).1 :=
    List.append_cancel_right (hbefore.symm.trans htext)
  have hstring : line = .ofList (head ++ (Context.splitPath c.argument.toList).1 ++
      c.word.toList) := by
    rw [← htext, String.ofList_toList]
  rw [Completion.completedWord, ← hfrom, ← hhead, Context.pathWith]
  conv_lhs => rw [hstring]
  rw [Text.sliceBytes_byteLength_append]

/-- Whole names are offered in front of the first bar only. -/
lemma isPiped_of_wholeNames? (h : s.wholeNames? c = some names) : c.isPiped = false := by
  unfold wholeNames? at h
  unfold Context.isPiped
  cases hrole : c.role with
  | command => rfl
  | argument done => rfl
  | _ =>
    rw [hrole] at h
    cases h

/-- A candidate is one of the names that are asked for, or a file. -/
lemma mem_or_namesFile_of_mem_candidatesIn {cursor : Nat} (hnames : s.wholeNames? c = some names)
    (h : name ∈ (s.candidatesIn c cursor).candidates) : name ∈ names ∨ s.NamesFile c name := by
  unfold wholeNames? at hnames
  unfold candidatesIn at h
  cases hrole : c.role with
  | command =>
    rw [hrole] at h hnames
    obtain rfl := Option.some.inj hnames
    rcases List.mem_append.mp (mem_unique.mp h) with h | h
    · exact .inl (Text.mem_sortByName.mp (mem_beginning.mp h).1)
    · exact .inr ⟨hrole, List.mem_map.mp h⟩
  | argument done =>
    rw [hrole] at h hnames
    dsimp only at h hnames
    refine .inl ?_
    cases hkind : s.grammar.argumentAfter c.command done with
    | bookmarkName | aliasName | subcommand =>
      rw [hkind] at h hnames
      obtain rfl := Option.some.inj hnames
      exact (mem_beginning.mp h).1
    | _ =>
      rw [hkind] at hnames
      cases hnames
  | _ =>
    rw [hrole] at hnames
    cases hnames

/-- Behind a directory, a path is no name without separators. -/
lemma pathWith_notMem (hdirectory : c.hasDirectory = true)
    (hplain : ∀ known ∈ names, known.toList.any Context.isSeparator = false) :
    c.pathWith name ∉ names := by
  intro hmem
  obtain ⟨x, hx, hseparator⟩ := Context.exists_separator_of_hasDirectory hdirectory
  refine List.any_eq_false.mp (hplain _ hmem) x ?_ hseparator
  rw [Context.pathWith, String.toList_append, String.toList_ofList]
  exact List.mem_append_left _ hx

/-- Where a line outside of quotes asks for a name, every candidate is such a name, or for the first
word a file, and stands behind the directory that is typed. The word that results is one of the
names if no directory is typed. If none of them holds a separator, it is one exactly if no directory
is typed or the candidate is a file. -/
theorem exists_completed_names (hc : Context.parse s.grammar line line.utf8ByteSize = .ok c)
    (hquote : Line.openQuote? line.toList = none) (hnames : s.wholeNames? c = some names) :
    ∃ completion, s.complete line line.utf8ByteSize = .ok completion ∧
      ∀ name ∈ completion.candidates,
        completion.completedWord line name = c.pathWith name ∧
        (name ∈ names ∨ s.NamesFile c name) ∧
        (c.hasDirectory = false → s.IsNamed c names (completion.completedWord line name)) ∧
        ((∀ known ∈ names, known.toList.any Context.isSeparator = false) →
          (s.IsNamed c names (completion.completedWord line name) ↔
            c.hasDirectory = false ∨ s.NamesFile c name)) := by
  refine ⟨_, complete_eq_ok hc, ?_⟩
  intro name hoffered
  have hword := completedWord_candidatesIn hc hquote (isPiped_of_wholeNames? hnames) name
  have hname := mem_or_namesFile_of_mem_candidatesIn hnames hoffered
  have hfile : s.NamesFile c name → s.IsNamed c names (c.pathWith name) := by
    rintro ⟨hrole, entry, hentry, rfl⟩
    exact .inr ⟨hrole, entry, hentry, rfl⟩
  have hplain : c.hasDirectory = false → s.IsNamed c names (c.pathWith name) := by
    intro hdirectory
    rcases hname with hmem | hentry
    · refine .inl ?_
      rwa [Context.pathWith_of_hasDirectory_eq_false hdirectory]
    · exact hfile hentry
  rw [hword]
  refine ⟨rfl, hname, hplain, ?_⟩
  intro hseparators
  constructor
  · rintro (hmem | ⟨hrole, entry, hentry, hpath⟩)
    · cases hdirectory : c.hasDirectory with
      | false => exact .inl rfl
      | true => exact absurd hmem (pathWith_notMem hdirectory hseparators)
    · exact .inr ⟨hrole, entry, hentry, Context.pathWith_inj hpath⟩
  · rintro (hdirectory | hentry)
    · exact hplain hdirectory
    · exact hfile hentry

/-! ### Lines -/

/-- Completion among a few names, and a file in every directory. -/
def fewNames : Suggester where
  sources := {
    commands := ["ls", "bookmark", "jump", "unalias"], aliases := ["ll"], bookmarks := ["docs"]
    entries := fun _ typed =>
      [⟨"main.rs", false⟩].filter fun entry => Text.startsFolded entry.name typed
    continuations := fun _ _ => [] }

/-- The context at the end of a name that is typed behind `jump`. -/
def bookmarkContext : Context where
  command := "jump"
  role := .argument []
  used := []
  word := "Do"
  argument := "Do"

/-- In particular a bookmark is completed where no directory is typed. -/
theorem exists_completed_names_bookmark :
    Context.parse fewNames.grammar "jump Do" "jump Do".utf8ByteSize = .ok bookmarkContext ∧
      Line.openQuote? "jump Do".toList = none ∧
      fewNames.wholeNames? bookmarkContext = some ["docs"] ∧
      bookmarkContext.hasDirectory = false ∧
      ∃ completion, fewNames.complete "jump Do" "jump Do".utf8ByteSize = .ok completion ∧
        completion.candidates = ["docs"] ∧
        fewNames.IsNamed bookmarkContext ["docs"] (completion.completedWord "jump Do" "docs") := by
  have hparse : Context.parse fewNames.grammar "jump Do" "jump Do".utf8ByteSize =
      .ok bookmarkContext := by decide +kernel
  have hquote : Line.openQuote? "jump Do".toList = none := by decide +kernel
  have hnames : fewNames.wholeNames? bookmarkContext = some ["docs"] := by decide +kernel
  have hdirectory : bookmarkContext.hasDirectory = false := by decide +kernel
  have hcomplete : fewNames.complete "jump Do" "jump Do".utf8ByteSize =
      .ok { candidates := ["docs"], replaceFrom := 5 } := by decide +kernel
  obtain ⟨completion, hcompletion, hcandidates⟩ := exists_completed_names hparse hquote hnames
  rw [hcomplete] at hcompletion
  obtain rfl := Except.ok.inj hcompletion
  obtain ⟨-, -, hnamed, -⟩ := hcandidates "docs" (List.mem_singleton_self _)
  exact ⟨hparse, hquote, hnames, hdirectory, _, hcomplete, rfl, hnamed hdirectory⟩

/-- A candidate is offered at the end of a line without bars and open quotes that does not complete
the word there to one of the names that are asked for. -/
def OffersOtherWord (s : Suggester) (line : String) : Prop :=
  '|' ∉ line.toList ∧ Line.openQuote? line.toList = none ∧
    ∃ c names completion name, Context.parse s.grammar line line.utf8ByteSize = .ok c ∧
      s.wholeNames? c = some names ∧ s.complete line line.utf8ByteSize = .ok completion ∧
      name ∈ completion.candidates ∧
      ¬s.IsNamed c names (completion.completedWord line name)

/-- A name is offered that makes a word without the meaning it should have. -/
lemma offersOtherWord_of_mem (c : Context) (name : String) (hbar : '|' ∉ line.toList)
    (hquote : Line.openQuote? line.toList = none)
    (hc : Context.parse s.grammar line line.utf8ByteSize = .ok c)
    (hnames : s.wholeNames? c = some names)
    (hoffered : name ∈
      (s.candidatesIn c (Text.clampByte line.utf8ByteSize line.toList)).candidates)
    (hnot : ¬s.IsNamed c names (c.pathWith name)) : s.OffersOtherWord line := by
  refine ⟨hbar, hquote, c, names, _, name, hc, hnames, complete_eq_ok hc, hoffered, ?_⟩
  rwa [completedWord_candidatesIn hc hquote (isPiped_of_wholeNames? hnames)]

/-- Behind a directory, a command, a bookmark, an alias and a subcommand are offered. -/
theorem offers_names_behind_directory :
    fewNames.OffersOtherWord "src/l" ∧ fewNames.OffersOtherWord "jump a/do" ∧
      fewNames.OffersOtherWord "unalias a/l" ∧ fewNames.OffersOtherWord "bookmark x/a" := by
  refine ⟨?_, ?_, ?_, ?_⟩
  · have hoffered : "ls" ∈ fewNames.commandNames ⟨"", .command, [], "l", "src/l"⟩ := by
      refine mem_unique.mpr (List.mem_append_left _ (mem_beginning.mpr ⟨?_, by decide +kernel⟩))
      exact Text.mem_sortByName.mpr (by decide)
    exact offersOtherWord_of_mem ⟨"", .command, [], "l", "src/l"⟩ "ls" (by decide)
      (by decide +kernel) (by decide +kernel) rfl hoffered (by decide +kernel)
  · exact offersOtherWord_of_mem ⟨"jump", .argument [], [], "do", "a/do"⟩ "docs" (by decide)
      (by decide +kernel) (by decide +kernel) rfl (by decide +kernel) (by decide +kernel)
  · exact offersOtherWord_of_mem ⟨"unalias", .argument [], [], "l", "a/l"⟩ "ll" (by decide)
      (by decide +kernel) (by decide +kernel) rfl (by decide +kernel) (by decide +kernel)
  · exact offersOtherWord_of_mem ⟨"bookmark", .argument [], [], "a", "x/a"⟩ "add" (by decide)
      (by decide +kernel) (by decide +kernel) rfl (by decide +kernel) (by decide +kernel)

end Suggester

end TableShell
