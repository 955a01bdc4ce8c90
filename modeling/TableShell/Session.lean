import TableShell.Failure
import TableShell.History.Store
import TableShell.Output
import TableShell.Pairs

/-!
# The shell and its surroundings

The state that commands read and change: the shell with its aliases, bookmarks and history, and
the machine with its files and processes. A command that fails keeps the changes that it has made
before.
-/

namespace TableShell

/-! ### The machine -/

/-- A running process. -/
structure Process where
  pid : Nat
  name : String
  memory : Nat
  threads : Int
  /-- Whether the user of the shell owns the process. -/
  owned : Bool
  deriving DecidableEq, Repr

/-- The directories of the user: the home directory, and those for data and for configuration. -/
structure UserDirectories where
  home : Option String := none
  data : Option String := none
  config : Option String := none
  deriving DecidableEq, Repr

/-- The directories of a user with the given home directory. -/
def UserDirectories.below (home : String) : UserDirectories where
  home := some home
  data := some (joinPath home ".local/share")
  config := some (joinPath home ".config")

/-- The surroundings of the shell. -/
structure Machine where
  files : FileSystem := {}
  directories : UserDirectories := {}
  processes : List Process := []
  deriving DecidableEq, Repr

/-! ### The shell -/

/-- Where the stores of the shell are kept, and the bound of the history if one is set. -/
structure StorePaths where
  history : HistoryFiles := {}
  aliases : Option String := none
  bookmarks : Option String := none
  maxHistory : Option Nat := none
  deriving DecidableEq, Repr

/-- The stores below the data directory of a user. -/
def StorePaths.default (directories : UserDirectories) : StorePaths :=
  let inData (name : String) : Option String :=
    directories.data.map fun data => joinPath (joinPath data "ghostsh") name
  { history := { log := inData "history", table := inData "frequency" }
    aliases := inData "aliases"
    bookmarks := inData "bookmarks" }

/-- The state of the shell between lines. -/
structure Shell where
  aliases : Pairs := {}
  bookmarks : Pairs := {}
  history : HistoryStore := {}
  /-- The working directory before the last change of it. -/
  previous : Option String := none
  exitRequested : Bool := false
  deriving DecidableEq, Repr

/-- The shell with the stores found in files. Aliases and bookmarks that cannot be read are kept
in memory only. -/
def Shell.load (fs : FileSystem) (paths : StorePaths) : Shell :=
  let history := HistoryStore.load fs paths.history
  { aliases := .loadOrEmpty fs paths.aliases
    bookmarks := .loadOrEmpty fs paths.bookmarks
    history := match paths.maxHistory with
      | some limit => history.withMaxEntries limit
      | none => history }

/-! ### Sessions -/

/-- The shell in its surroundings. -/
structure Session where
  shell : Shell := {}
  machine : Machine := {}
  deriving DecidableEq, Repr

/-- What a command does to a session. A failure carries the session as it then stands. -/
abbrev Action := EStateM Failure Session

namespace Session

/-- Answer with what follows from the files. -/
def inspect {α : Type} (question : FileSystem → Except FileError α) : Action α := fun s =>
  match question s.machine.files with
  | .ok a => .ok a s
  | .error e => .error e.toFailure s

/-- Replace the files. -/
def withFiles (s : Session) (fs : FileSystem) : Session :=
  { s with machine := { s.machine with files := fs } }

/-- Change the files, or fail and keep them. -/
def change (operation : FileSystem → Except FileError FileSystem) : Action Unit := fun s =>
  match operation s.machine.files with
  | .ok fs => .ok () (s.withFiles fs)
  | .error e => .error e.toFailure s

/-- Change the files by an operation that can leave changes behind when it fails. -/
def changeInPart (operation : FileSystem → Except FileError Unit × FileSystem) : Action Unit :=
  fun s =>
    match operation s.machine.files with
    | (.ok (), fs) => .ok () (s.withFiles fs)
    | (.error e, fs) => .error e.toFailure (s.withFiles fs)

/-- Take on changed aliases and save them. The change stays when saving fails. -/
def setAliases (aliases : Pairs) : Action Unit := fun s =>
  let s := { s with shell := { s.shell with aliases } }
  match aliases.save s.machine.files with
  | (.ok (), fs) => .ok () (s.withFiles fs)
  | (.error e, fs) => .error e (s.withFiles fs)

/-- Take on changed bookmarks and save them. The change stays when saving fails. -/
def setBookmarks (bookmarks : Pairs) : Action Unit := fun s =>
  let s := { s with shell := { s.shell with bookmarks } }
  match bookmarks.save s.machine.files with
  | (.ok (), fs) => .ok () (s.withFiles fs)
  | (.error e, fs) => .error e (s.withFiles fs)

/-- Record a submitted line in the history. -/
def record (s : Session) (line : String) : Session :=
  let (history, fs) := s.shell.history.record line s.machine.files
  { s with shell := { s.shell with history } }.withFiles fs

end Session

end TableShell
