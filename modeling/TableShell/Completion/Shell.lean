import TableShell.Command.Basic
import TableShell.Completion.Suggestion

/-!
# Completion in the shell

The names that the shell offers: its commands, its aliases and bookmarks, the files of the machine
and the lines of its history.
-/

namespace TableShell

/-- The entries of a directory that begin with a typed text without regard to case, sorted by
name. A relative directory is looked up below `base`, and an empty one is `base` itself. What cannot
be read has no entries. -/
def FileSystem.pathEntries (fs : FileSystem) (base : String) (dir typed : String) :
    List PathEntry :=
  let path := joinPath base (if dir.isEmpty then "." else dir)
  match fs.namesOf path with
  | .error _ => []
  | .ok names =>
    let found := names.filter fun name => Text.startsFolded name typed
    (Text.sortByName id found).map fun name =>
      { name, isDirectory := fs.isDirectory (joinPath path name) }

/-- The names that the shell offers, with relative paths below `base`. -/
def Sources.ofShell (shell : Shell) (fs : FileSystem) (base : String) : Sources where
  commands := Command.names
  aliases := shell.aliases.names
  bookmarks := shell.bookmarks.names
  entries := fs.pathEntries base
  continuations := shell.history.history.suggestions

end TableShell
