import TableShell.FileSystem.Change
import TableShell.History

/-!
# A history kept in files

The log is extended by a line for every recorded entry, and the table of counts is written anew.
The log is not shortened when the history drops entries; they are dropped again when it is loaded.
A file that cannot be read counts as empty, and one that cannot be written is passed over.
-/

namespace TableShell

/-- The files of a history; a part without a file is kept in memory only. -/
structure HistoryFiles where
  log : Option String := none
  table : Option String := none
  deriving DecidableEq, Repr, Inhabited

/-- A history and its files. -/
structure HistoryStore where
  history : History := {}
  files : HistoryFiles := {}
  deriving DecidableEq, Repr, Inhabited

namespace HistoryStore

/-- The lines of a file, none where it cannot be read. -/
def fileLines (fs : FileSystem) (path : Option String) : List String :=
  match path with
  | none => []
  | some path =>
    match fs.readText path with
    | .ok text => Text.lines text
    | .error _ => []

/-- Load a history. -/
def load (fs : FileSystem) (files : HistoryFiles) : HistoryStore :=
  { history := .ofLines (fileLines fs files.log) (fileLines fs files.table), files }

/-- Change the bound of the history. -/
def withMaxEntries (s : HistoryStore) (limit : Nat) : HistoryStore :=
  { s with history := s.history.withMaxEntries limit }

/-- Run an operation on a file below directories that are made first; a failure is passed over. -/
def attempt (fs : FileSystem) (path : String)
    (operation : FileSystem → Except FileError FileSystem) : FileSystem :=
  match fs.makeParents path with
  | (.error _, fs) => fs
  | (.ok (), fs) =>
    match operation fs with
    | .ok fs => fs
    | .error _ => fs

/-- Add an entry to the file of the log. -/
def writeEntry (files : HistoryFiles) (e : HistoryEntry) (fs : FileSystem) : FileSystem :=
  match files.log with
  | none => fs
  | some path => attempt fs path fun fs => fs.appendText path (History.entryLine e)

/-- Write the table of counts to its file. -/
def writeUsages (files : HistoryFiles) (usages : List Usage) (fs : FileSystem) : FileSystem :=
  match files.table with
  | none => fs
  | some path =>
    attempt fs path fun fs => fs.writeFile path (.text (History.usagesText usages))

/-- Record a submitted line, in memory and in the files. -/
def record (s : HistoryStore) (line : String) (fs : FileSystem) : HistoryStore × FileSystem :=
  if History.isRecorded line then
    let entry := History.entryOf line fs.clock
    let history := s.history.record line fs.clock
    ({ s with history }, writeUsages s.files history.usages (writeEntry s.files entry fs))
  else (s, fs)

end HistoryStore

end TableShell
