import Mathlib.Algebra.Ring.Parity
import TableShell.Proofs.Command.Effects
import TableShell.Proofs.FileSystem.Tree

/-!
# Changing the directory and back

The commands `cd` and `jump` go through one change of the directory: it is either refused, and then
nothing has changed, or the working directory is moved and the one that is left is remembered. So
`cd -` swaps the two, and swapping them again and again alternates between them.
-/

namespace TableShell

/-! ### Moves -/

/-- A command that can move the working directory, with its arguments. -/
inductive DirectoryMove where
  | cd (args : List String)
  | jump (args : List String)
  deriving DecidableEq, Repr

/-- What a move does. -/
def DirectoryMove.action : DirectoryMove → Action Output
  | cd args => Command.cd.execute args
  | jump args => Command.jump.execute args

namespace Session

/-- The session with the working directory moved to a place, and the one that is left remembered if
it has a name. -/
def moved (s : Session) (p : Place) : Session where
  shell := { s.shell with previous := s.machine.files.workingDirectory.toOption }
  machine := { s.machine with files := { s.machine.files with here := p } }

/-- How a session stands after moves, whether or not they have failed. -/
def afterMoves (s : Session) (moves : List DirectoryMove) : Session :=
  moves.foldl (fun s m => s.after m.action) s

end Session

/-- An action fails and changes nothing, or it moves the working directory to a directory. -/
def Action.Moves {α : Type} (action : Action α) : Prop :=
  ∀ s : Session, (∃ failure, action s = .error failure s) ∨
    ∃ a p, s.machine.files.nodeAt? p = some .directory ∧ action s = .ok a (s.moved p)

/-- An action changes nothing, whether or not it fails. -/
def Action.Reads {α : Type} (action : Action α) : Prop :=
  ∀ s : Session, (∃ failure, action s = .error failure s) ∨ ∃ a, action s = .ok a s

namespace Action

variable {α β : Type} {x : Action α} {f : α → Action β}

/-- An answer that is given at once only reads. -/
lemma reads_pure (a : α) : Reads (pure a : Action α) :=
  fun _ => .inr ⟨a, rfl⟩

/-- A failure leaves the session as it is. -/
lemma reads_throw (failure : Failure) : Reads (throw failure : Action α) :=
  fun _ => .inl ⟨failure, rfl⟩

/-- Asking for the session only reads. -/
lemma reads_get : Reads (get : Action Session) :=
  fun s => .inr ⟨s, rfl⟩

/-- What follows on asking for the session is run with the session that it starts in. -/
lemma get_bind_apply (f : Session → Action β) (s : Session) : (get >>= f) s = f s s := rfl

/-- What only reads fails as the whole, or hands on a value in the same session. -/
lemma Reads.bind_cases (hx : Reads x) (f : α → Action β) (s : Session) :
    (∃ failure, (x >>= f) s = .error failure s) ∨ ∃ a, (x >>= f) s = f a s := by
  rcases hx s with ⟨failure, hs⟩ | ⟨a, hs⟩
  · refine .inl ⟨failure, ?_⟩
    simp only [bind, EStateM.bind, hs]
  · refine .inr ⟨a, ?_⟩
    simp only [bind, EStateM.bind, hs]

/-- Two actions that only read make one that only reads. -/
lemma reads_bind (hx : Reads x) (hf : ∀ a, Reads (f a)) : Reads (x >>= f) := by
  intro s
  rcases hx.bind_cases f s with hfails | ⟨a, ha⟩
  · exact .inl hfails
  · rw [ha]
    exact hf a s

/-- An action that fails at once changes nothing. -/
lemma moves_throw (failure : Failure) : Moves (throw failure : Action α) :=
  fun _ => .inl ⟨failure, rfl⟩

/-- What is read before a move makes no difference to what the move changes. -/
lemma moves_bind (hx : Reads x) (hf : ∀ a, Moves (f a)) : Moves (x >>= f) := by
  intro s
  rcases hx.bind_cases f s with hfails | ⟨a, ha⟩
  · exact .inl hfails
  · rw [ha]
    exact hf a s

/-- A move stays one with another answer. -/
lemma Moves.answer (hx : Moves x) (b : β) : Moves (x >>= fun _ => pure b) := by
  intro s
  rcases hx s with ⟨failure, hs⟩ | ⟨a, p, hp, hs⟩
  · refine .inl ⟨failure, ?_⟩
    simp only [bind, EStateM.bind, hs]
  · refine .inr ⟨b, p, hp, ?_⟩
    simp only [bind, EStateM.bind, hs]
    rfl

end Action

/-- Entering a directory moves the working directory there. -/
lemma FileSystem.exists_of_enter {fs fs' : FileSystem} {path : String}
    (h : fs.enter path = .ok fs') :
    ∃ p, fs.nodeAt? p = some .directory ∧ fs' = { fs with here := p } := by
  obtain ⟨p, -, h⟩ := bind_eq_ok.mp h
  split at h
  · next hp => exact ⟨p, hp, (Except.ok.inj h).symm⟩
  · cases h

open TableShell.Action

namespace Files

variable {s : Session} {p : Place} {path : String}

/-- A path name that is refused changes nothing. -/
lemma changeDirectory_eq (path : String) (s : Session) :
    changeDirectory path s =
      if s.machine.files.isDirectory path then
        match s.machine.files.enter path with
        | .ok fs => .ok () ((s.moved fs.here).withFiles fs)
        | .error e => .error e.toFailure s
      else .error (.notFound s!"no such directory: {path}") s := by
  unfold changeDirectory
  rw [get_bind_apply, get_bind_apply]
  cases s.machine.files.isDirectory path with
  | false => rfl
  | true =>
    simp only [Bool.not_true, Bool.false_eq_true, if_false, if_true, bind, EStateM.bind,
      Session.change]
    cases s.machine.files.enter path <;> rfl

/-- Where the files let a directory be entered, the session goes there, and remembers where it has
been. -/
lemma changeDirectory_of_enter (hdirectory : s.machine.files.isDirectory path = true)
    (henter : s.machine.files.enter path = .ok { s.machine.files with here := p }) :
    changeDirectory path s = .ok () (s.moved p) := by
  rw [changeDirectory_eq, if_pos hdirectory, henter]
  rfl

/-- A change of the directory ends in a directory, or it fails and changes nothing. -/
lemma moves_changeDirectory (path : String) : Moves (changeDirectory path) := by
  intro s
  cases hdirectory : s.machine.files.isDirectory path with
  | false =>
    rw [changeDirectory_eq, hdirectory]
    exact .inl ⟨_, rfl⟩
  | true =>
    cases henter : s.machine.files.enter path with
    | error e =>
      rw [changeDirectory_eq, if_pos hdirectory, henter]
      exact .inl ⟨_, rfl⟩
    | ok fs =>
      obtain ⟨p, hp, rfl⟩ := FileSystem.exists_of_enter henter
      exact .inr ⟨(), p, hp, changeDirectory_of_enter hdirectory henter⟩

/-- Every way of the command `cd` to find a path name only reads. -/
lemma moves_cd (args : List String) : Moves (cd args) := by
  have hleave : ∀ path, Moves (do
      changeDirectory path
      return Output.nothing) := by
    intro path
    exact (moves_changeDirectory path).answer _
  unfold cd
  split
  · refine moves_bind (reads_bind reads_get ?_) hleave
    intro s
    split
    · exact reads_pure _
    · exact reads_throw _
  · refine moves_bind (reads_bind reads_get ?_) hleave
    intro s
    split
    · exact reads_pure _
    · exact reads_throw _
  · refine moves_bind reads_get ?_
    intro s
    split
    · exact hleave _
    · exact moves_bind (reads_throw _) hleave
  · exact hleave _
  · exact moves_bind (reads_throw _) hleave

/-- The directory before is entered by its path name. -/
lemma cd_back (hprevious : s.shell.previous = some path)
    (hdirectory : s.machine.files.isDirectory path = true)
    (henter : s.machine.files.enter path = .ok { s.machine.files with here := p }) :
    cd ["-"] s = .ok .nothing (s.moved p) := by
  have hcd : cd ["-"] s = (changeDirectory path >>= fun _ => pure Output.nothing) s := by
    obtain ⟨⟨aliases, bookmarks, history, previous, exitRequested⟩, machine⟩ := s
    obtain rfl : previous = some path := hprevious
    rfl
  rw [hcd]
  simp only [bind, EStateM.bind, changeDirectory_of_enter hdirectory henter]
  rfl

end Files

/-- A jump goes to a directory, or it fails and changes nothing. -/
lemma Naming.moves_jump (args : List String) : Moves (jump args) := by
  unfold jump
  split
  · exact moves_throw _
  · refine moves_bind reads_get ?_
    intro s
    split
    · exact moves_throw _
    · exact (Files.moves_changeDirectory _).answer _

/-- Both commands that move between directories do so. -/
lemma DirectoryMove.moves_action (m : DirectoryMove) : Moves m.action := by
  cases m with
  | cd args => exact Files.moves_cd args
  | jump args => exact Naming.moves_jump args

/-! ### Runs of moves -/

namespace Session

variable {s : Session} {a b : Location}

/-- A run of moves begins with the first one. -/
lemma afterMoves_cons (s : Session) (m : DirectoryMove) (moves : List DirectoryMove) :
    s.afterMoves (m :: moves) = (s.after m.action).afterMoves moves := rfl

/-- A move leaves a tree a tree. -/
lemma isTree_after (h : s.machine.files.IsTree) (m : DirectoryMove) :
    (s.after m.action).machine.files.IsTree := by
  unfold after
  rcases m.moves_action s with ⟨failure, hs⟩ | ⟨output, p, hp, hs⟩
  · rw [hs]
    exact h
  · rw [hs]
    exact h.move hp

/-- The files are a tree after any run of moves. -/
lemma isTree_afterMoves (h : s.machine.files.IsTree) (moves : List DirectoryMove) :
    (s.afterMoves moves).machine.files.IsTree := by
  induction moves generalizing s with
  | nil => exact h
  | cons m moves ih => exact ih (isTree_after h m)

/-- The working directory is one of two directories, and the other one is remembered. -/
structure Between (fs : FileSystem) (a b : Location) (s : Session) : Prop where
  files : s.machine.files = { fs with here := { live := b } }
  previous : s.shell.previous = some a.display

/-- Going back swaps the two directories. -/
lemma Between.back {fs : FileSystem} (h : Between fs a b s) (hfs : fs.IsTree)
    (ha : fs.node? a = some .directory) (hexists : fs.pathExists a.display = true) :
    Between fs b a (s.after (DirectoryMove.cd ["-"]).action) := by
  obtain ⟨hdirectory, henter⟩ := hfs.enter_display ha hexists { live := b }
  rw [← h.files] at hdirectory henter
  have hmoved : s.machine.files.enter a.display =
      .ok { s.machine.files with here := { live := a } } := by
    rw [henter, h.files]
  have hback : (DirectoryMove.cd ["-"]).action s = .ok .nothing (s.moved { live := a }) :=
    Files.cd_back h.previous hdirectory hmoved
  unfold after
  rw [hback]
  constructor
  · simp only [moved, h.files]
  · simp only [moved, h.files]
    rfl

/-- Going back again and again alternates between the two directories. -/
lemma Between.alternate {fs : FileSystem} (h : Between fs a b s) (hfs : fs.IsTree)
    (ha : fs.node? a = some .directory) (hb : fs.node? b = some .directory)
    (hpathA : fs.pathExists a.display = true) (hpathB : fs.pathExists b.display = true) (n : Nat) :
    (Even n → Between fs a b (s.afterMoves (List.replicate n (.cd ["-"])))) ∧
      (Odd n → Between fs b a (s.afterMoves (List.replicate n (.cd ["-"])))) := by
  induction n generalizing s a b with
  | zero =>
    constructor
    · intro _
      exact h
    · intro hodd
      exact absurd hodd (by decide)
  | succ n ih =>
    -- After one step the two directories have changed places.
    obtain ⟨heven, hodd⟩ := ih (h.back hfs ha hpathA) hb ha hpathB hpathA
    rw [List.replicate_succ, afterMoves_cons, Nat.even_add_one, Nat.odd_add_one,
      Nat.not_even_iff_odd, Nat.not_odd_iff_even]
    exact ⟨hodd, heven⟩

/-- A session after a move from one directory to another, where each of the two is a directory of
the tree by its path name. -/
lemma exists_between {p : Place} {left reached : String} (h : s.machine.files.IsTree)
    (hp : s.machine.files.nodeAt? p = some .directory)
    (hleft : s.machine.files.workingDirectory = .ok left)
    (hreached : (s.moved p).machine.files.workingDirectory = .ok reached) :
    ∃ a b, left = a.display ∧ reached = b.display ∧
      (s.moved p).machine.files.node? a = some .directory ∧
      (s.moved p).machine.files.node? b = some .directory ∧
      Between (s.moved p).machine.files a b (s.moved p) := by
  have hprevious : (s.moved p).shell.previous = some left := by
    simp only [moved, hleft]
    rfl
  obtain ⟨a, -, rfl, ha⟩ := h.exists_of_workingDirectory hleft
  obtain ⟨b, hhere, rfl, hb⟩ := (h.move hp).exists_of_workingDirectory hreached
  refine ⟨a, b, rfl, rfl, ha, hb, ?_, hprevious⟩
  rw [← hhere]
  rfl

/-- Over moves in a tree, one that fails changes nothing, and one that succeeds remembers the
directory that it has left, if that still has a name. If it has led from one directory to another
and the path names of both lead somewhere, going back once or several times alternates between
the two: an odd number of times leads to the first one and remembers the second, and an even number
the other way around. -/
theorem undo_of_directory_move {start : Session} (htree : start.machine.files.IsTree)
    (moves : List DirectoryMove) (m : DirectoryMove) :
    let s := start.afterMoves moves
    (∀ failure s', m.action s = .error failure s' → s' = s) ∧
      ∀ output s', m.action s = .ok output s' →
        s'.shell.previous = s.machine.files.workingDirectory.toOption ∧
        ∀ left reached, s.machine.files.workingDirectory = .ok left →
          s'.machine.files.workingDirectory = .ok reached →
          s'.machine.files.pathExists left = true → s'.machine.files.pathExists reached = true →
          ∀ n : Nat,
            let t := s'.afterMoves (List.replicate n (.cd ["-"]))
            (Odd n → t.machine.files.workingDirectory = .ok left ∧
              t.shell.previous = some reached) ∧
            (Even n → t.machine.files.workingDirectory = .ok reached ∧
              t.shell.previous = some left) := by
  intro s
  have hs : s.machine.files.IsTree := isTree_afterMoves htree moves
  rcases m.moves_action s with ⟨failure, hfails⟩ | ⟨output, p, hp, hmoves⟩
  · rw [hfails]
    refine ⟨?_, ?_⟩
    · rintro _ _ ⟨⟩
      rfl
    · rintro _ _ ⟨⟩
  · rw [hmoves]
    refine ⟨?_, ?_⟩
    · rintro _ _ ⟨⟩
    · rintro _ _ ⟨⟩
      refine ⟨rfl, ?_⟩
      intro left reached hleft hreached hpathLeft hpathReached n
      obtain ⟨a, b, rfl, rfl, ha, hb, hbetween⟩ := exists_between hs hp hleft hreached
      obtain ⟨heven, hodd⟩ := hbetween.alternate (hs.move hp) ha hb hpathLeft hpathReached n
      constructor
      · intro hn
        obtain ⟨hfiles, hprevious⟩ := hodd hn
        refine ⟨?_, hprevious⟩
        rw [hfiles]
        rfl
      · intro hn
        obtain ⟨hfiles, hprevious⟩ := heven hn
        refine ⟨?_, hprevious⟩
        rw [hfiles]
        rfl

/-! ### A tree with a link -/

/-- A session with two directories, a link to the inner one, and a bookmark for the outer one. -/
def linkedTree : Session where
  shell := { bookmarks := { entries := [("top", "/a")] } }
  machine := {
    files := {
      entries := [(["a"], { node := .directory }), (["a", "b"], { node := .directory }),
        (["c"], { node := .link "/a/b" })] } }

/-- The files of the example are a tree, with the link in it. -/
lemma isTree_linkedTree : linkedTree.machine.files.IsTree where
  names := by decide
  parents := by decide
  here := by decide

/-- In particular, after a move over the link and a jump to the outer directory, three times back
lead to the inner one. -/
theorem undo_of_directory_move_linkedTree :
    linkedTree.machine.files.IsTree ∧
      ∃ output s', (DirectoryMove.jump ["top"]).action (linkedTree.afterMoves [.cd ["c"]]) =
          .ok output s' ∧
        (linkedTree.afterMoves [.cd ["c"]]).machine.files.workingDirectory = .ok "/a/b" ∧
        s'.machine.files.workingDirectory = .ok "/a" ∧
        s'.machine.files.pathExists "/a/b" = true ∧ s'.machine.files.pathExists "/a" = true ∧
        (s'.afterMoves (List.replicate 3 (.cd ["-"]))).machine.files.workingDirectory =
          .ok "/a/b" ∧
        (s'.afterMoves (List.replicate 3 (.cd ["-"]))).shell.previous = some "/a" := by
  have hleft : (linkedTree.afterMoves [.cd ["c"]]).machine.files.workingDirectory = .ok "/a/b" := by
    decide +kernel
  have hafter : ((linkedTree.afterMoves [.cd ["c"]]).after
      (DirectoryMove.jump ["top"]).action).machine.files =
        { linkedTree.machine.files with here := { live := ["a"] } } := by decide +kernel
  obtain ⟨-, hsucceeds⟩ := undo_of_directory_move isTree_linkedTree [.cd ["c"]] (.jump ["top"])
  rcases (DirectoryMove.jump ["top"]).moves_action (linkedTree.afterMoves [.cd ["c"]]) with
    ⟨failure, hfails⟩ | ⟨output, p, -, hmoves⟩
  · rw [Session.after, hfails] at hafter
    rw [hafter] at hleft
    exact absurd hleft (by decide +kernel)
  · rw [Session.after, hmoves] at hafter
    have hreached : ((linkedTree.afterMoves [.cd ["c"]]).moved p).machine.files.workingDirectory =
        .ok "/a" := by
      rw [hafter]
      decide +kernel
    have hpathLeft : ((linkedTree.afterMoves [.cd ["c"]]).moved p).machine.files.pathExists "/a/b" =
        true := by
      rw [hafter]
      decide +kernel
    have hpathReached : ((linkedTree.afterMoves [.cd ["c"]]).moved p).machine.files.pathExists
        "/a" = true := by
      rw [hafter]
      decide +kernel
    obtain ⟨-, hback⟩ := hsucceeds _ _ hmoves
    obtain ⟨hodd, -⟩ := hback _ _ hleft hreached hpathLeft hpathReached 3
    exact ⟨isTree_linkedTree, output, _, hmoves, hleft, hreached, hpathLeft, hpathReached,
      hodd (by decide)⟩

end Session

end TableShell
