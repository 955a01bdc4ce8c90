import TableShell.Failure
import TableShell.FileSystem.Contents
import TableShell.FileSystem.Path
import TableShell.Text.Order

/-!
# The tree of files

Directories, files and symbolic links, listed by their locations, together with the working
directory. A directory can be removed while it is the working directory; it then has no name any
more, but it still leads up to where it was.

There are no permissions. Operations fail for what the tree holds, and for no other reason; so a
directory that exists can always be entered.
-/

namespace TableShell

/-! ### Errors -/

/-- Why an operation on files failed. -/
inductive FileError where
  | notFound
  | notDirectory
  | isDirectory
  | alreadyExists
  | notEmpty
  | invalid
  | busy
  | tooManyLinks
  | nameTooLong
  /-- A path name holds a NUL character. -/
  | nulInName
  /-- A file is not a text. -/
  | notText
  deriving DecidableEq, Repr

namespace FileError

/-- The message of the system, with its number where it has one. -/
def message : FileError → String
  | notFound => "No such file or directory (os error 2)"
  | notDirectory => "Not a directory (os error 20)"
  | isDirectory => "Is a directory (os error 21)"
  | alreadyExists => "File exists (os error 17)"
  | notEmpty => "Directory not empty (os error 39)"
  | invalid => "Invalid argument (os error 22)"
  | busy => "Device or resource busy (os error 16)"
  | tooManyLinks => "Too many levels of symbolic links (os error 40)"
  | nameTooLong => "File name too long (os error 36)"
  | nulInName => "file name contained an unexpected NUL byte"
  | notText => "stream did not contain valid UTF-8"

/-- The failure of a command that meets an error: what is missing is not found, and all else is a
failure to read or write. -/
def toFailure (e : FileError) : Failure :=
  match e with
  | notFound => .notFound e.message
  | _ => { cause := .io e.message }

end FileError

/-! ### The tree -/

/-- What stands at a location. -/
inductive Node where
  | directory
  | file (contents : Contents)
  | link (target : String)
  deriving DecidableEq, Repr

/-- What stands at a location, and when it was last changed, in seconds. -/
structure Entry where
  node : Node
  modified : Int := 0
  deriving DecidableEq, Repr

/-- A place that a path name leads to. `lost` names the removed directories below `live`, from
the outermost; it is empty for what is in the tree. -/
structure Place where
  live : Location
  lost : List String := []
  deriving DecidableEq, Repr

/-- The root of the tree. -/
def Place.root : Place := { live := [] }

/-- Where a place is after the tree at `loc` is removed. -/
def Place.afterRemoval (p : Place) (loc : Location) : Place :=
  if loc.isPrefixOf p.live then
    { live := loc.dropLast, lost := p.live.drop (loc.length - 1) ++ p.lost }
  else p

/-- A tree of files with a working directory. The root is always there. -/
structure FileSystem where
  entries : List (Location × Entry) := []
  /-- The working directory. -/
  here : Place := .root
  /-- The time given to what is made or changed, in seconds. -/
  clock : Int := 0
  deriving DecidableEq, Repr

namespace FileSystem

/-- The times that a file can carry: 34-bit counts of seconds that begin at `-2 ^ 31`. Others are
moved to the nearer end. -/
def storedTime (t : Int) : Int :=
  max (-0x80000000) (min t 0x37FFFFFFF)

/-- What stands at a location. -/
def entry? (fs : FileSystem) (loc : Location) : Option Entry :=
  if loc.isEmpty then some { node := .directory } else fs.entries.lookup loc

/-- What stands at a location, without its time. -/
def node? (fs : FileSystem) (loc : Location) : Option Node :=
  (fs.entry? loc).map Entry.node

/-- Put an entry at a location, in place of what stood there. -/
def put (fs : FileSystem) (loc : Location) (e : Entry) : FileSystem :=
  { fs with entries := fs.entries.filter (fun old => old.1 != loc) ++ [(loc, e)] }

/-- The names in a directory, in the order of code points. -/
def namesIn (fs : FileSystem) (loc : Location) : List String :=
  (fs.entries.filterMap fun (l, _) =>
    if l.dropLast == loc then l.getLast? else none).mergeSort fun a b =>
      Text.compareStrings a b != .gt

/-- Remove what stands at a location and everything below it. -/
def removeAt (fs : FileSystem) (loc : Location) : FileSystem :=
  { fs with
    entries := fs.entries.filter fun old => !loc.isPrefixOf old.1
    here := fs.here.afterRemoval loc }

/-- Give a time to every entry. -/
def stampAll (fs : FileSystem) (time : Location → Int) : FileSystem :=
  { fs with
    entries := fs.entries.map fun (l, e) => (l, { e with modified := storedTime (time l) }) }

end FileSystem

end TableShell
