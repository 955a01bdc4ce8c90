import TableShell.FileSystem.Change
import TableShell.Text.Blank

/-!
# Named values in a file

Names with a value each, kept in a file of lines `name=value`. A line is cut at its first equals
sign. New names come last, and a name that gets a new value keeps its place.
-/

namespace TableShell

/-- Names and their values in order, and the file that keeps them, if any. -/
structure Pairs where
  entries : List (String × String) := []
  path : Option String := none
  deriving DecidableEq, Repr, Inhabited

namespace Pairs

/-! ### Look-up and change -/

/-- The names in order. -/
def names (p : Pairs) : List String :=
  p.entries.map Prod.fst

/-- The value of a name, the first one where a file lists the name more than once. -/
def get? (p : Pairs) (name : String) : Option String :=
  p.entries.lookup name

/-- Give a name a value in a list of pairs: the first pair of that name is changed, or a new pair
comes last. -/
def setIn (name value : String) : List (String × String) → List (String × String)
  | [] => [(name, value)]
  | (k, v) :: rest => if k == name then (k, value) :: rest else (k, v) :: setIn name value rest

/-- Give a name a value. -/
def set (p : Pairs) (name value : String) : Pairs :=
  { p with entries := setIn name value p.entries }

/-- Drop the first pair of a name. -/
def erase (p : Pairs) (name : String) : Pairs :=
  { p with entries := p.entries.eraseP fun e => e.1 == name }

/-! ### Files -/

/-- Read a line: the name before the first equals sign and the value after it, without blanks
around them. A line without an equals sign or without a name is none. -/
def parseLine? (line : String) : Option (String × String) :=
  (Text.cutFirst '=' line.toList).bind fun (name, value) =>
    let name := Text.trimChars name
    if name.isEmpty then none else some (.ofList name, .ofList (Text.trimChars value))

/-- Read the pairs of a file. -/
def parse (text : String) : List (String × String) :=
  (Text.lines text).filterMap parseLine?

/-- The text of a file. -/
def text (entries : List (String × String)) : String :=
  "".intercalate (entries.map fun (name, value) => name ++ "=" ++ value ++ "\n")

/-- The failure to read or write a file of pairs. -/
def fileFailure (path : String) (e : FileError) : Failure :=
  e.toFailure.withDetail "path" path

/-- Load a file of pairs. A file that does not exist has none. -/
def load (fs : FileSystem) (path : String) : Except Failure Pairs :=
  match fs.readText path with
  | .ok text => .ok { entries := parse text, path := some path }
  | .error .notFound => .ok { path := some path }
  | .error e => .error (fileFailure path e)

/-- Load a file of pairs; without a file, or where it cannot be read, the pairs are kept in memory
only. -/
def loadOrEmpty (fs : FileSystem) (path : Option String) : Pairs :=
  match path with
  | none => {}
  | some path => (load fs path).toOption.getD {}

/-- Write the file of the pairs anew. Pairs in memory are saved already. -/
def save (p : Pairs) (fs : FileSystem) : Except Failure Unit × FileSystem :=
  match p.path with
  | none => (.ok (), fs)
  | some path =>
    match fs.makeParents path with
    | (.error e, fs) => (.error (fileFailure path e), fs)
    | (.ok (), fs) =>
      match fs.writeFile path (.text (text p.entries)) with
      | .error e => (.error (fileFailure path e), fs)
      | .ok fs => (.ok (), fs)

end Pairs

end TableShell
