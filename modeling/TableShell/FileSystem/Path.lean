import TableShell.Text.Search

/-!
# Path names

A path name is a text whose pieces are separated by slashes. Empty pieces do not count, except
that a slash at the end demands a directory. A path name that begins with a slash starts at the
root, and any other one at the working directory.
-/

namespace TableShell

/-- The names of the directories from the root down to a file or directory. -/
abbrev Location := List String

/-- The text of a location. -/
def Location.display (loc : Location) : String :=
  "/" ++ "/".intercalate loc

/-- The pieces of a path name. -/
structure PathName where
  absolute : Bool
  parts : List String
  /-- Whether a slash follows the last piece. -/
  trailing : Bool
  deriving DecidableEq, Repr

namespace PathName

/-- Read a path name. -/
def parse (s : String) : PathName :=
  let pieces := s.toList.splitOn '/'
  let parts := (pieces.filter fun cs => !cs.isEmpty).map String.ofList
  { absolute := s.toList.head? == some '/'
    parts
    trailing := !parts.isEmpty && pieces.getLast? == some [] }

/-- The steps that lead to what a path name means: its pieces, and a step in place where a slash
at the end demands a directory. -/
def steps (p : PathName) : List String :=
  p.parts ++ if p.trailing then ["."] else []

end PathName

/-- The last piece of a path name that names something, if it does not end by going up. -/
def fileName? (path : String) : Option String :=
  match ((PathName.parse path).parts.filter fun part => part != ".").getLast? with
  | some part => if part == ".." then none else some part
  | none => none

/-- The path name of the directory that holds what a path name names: nothing for the root and
for an empty name, and the empty name for a single relative piece. -/
def parentPath? (path : String) : Option String :=
  let p := PathName.parse path
  let parts := match p.parts with
    | "." :: rest => if p.absolute then rest.filter (· != ".") else "." :: rest.filter (· != ".")
    | parts => parts.filter (· != ".")
  if parts.isEmpty then none
  else
    let above := "/".intercalate parts.dropLast
    some (if p.absolute then "/" ++ above else above)

/-- A name below a directory given by its path name; an absolute name stands for itself. -/
def joinPath (dir name : String) : String :=
  if name.toList.head? == some '/' then name
  else if dir.isEmpty || dir.toList.getLast? == some '/' then dir ++ name
  else dir ++ "/" ++ name

/-- Whether a path name starts at the working directory. -/
def isRelativePath (path : String) : Bool :=
  path.toList.head? != some '/'

end TableShell
