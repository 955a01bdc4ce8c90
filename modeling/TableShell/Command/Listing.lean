import TableShell.Calendar
import TableShell.Command.Basic

/-!
# Tables of files and processes

The commands that produce tables: listings of directories and the table of running processes.
-/

namespace TableShell.Listing

/-! ### Directories -/

/-- The columns of a listing. -/
def headers : List String := ["Name", "Size", "Type", "Date"]

/-- The row of a file or directory; directories count no bytes. -/
def row (name : String) (e : Entry) : Row :=
  let (size, type) := match e.node with
    | .file contents => (contents.size, "File")
    | _ => (0, "Directory")
  [{ value := .text name }, { value := .size (Size.format size) }, { value := .text type },
    { value := .text (Calendar.dateText e.modified) }]

/-- The row of what a path name leads to. -/
def rowOf (fs : FileSystem) (name path : String) : Except FileError Row := do
  return row name (← fs.entryOf path)

/-- The rows of the named entries of a directory, sorted by name without regard to case. An entry
that leads nowhere has no row. -/
def rowsIn (fs : FileSystem) (path : String) (names : List String) : List Row :=
  (Text.sortByName id names).filterMap fun name =>
    (rowOf fs name (joinPath path name)).toOption

/-- The listing of a directory, or of a single file. -/
def listing (fs : FileSystem) (path : String) : Except Failure Table :=
  if fs.isDirectory path then
    match fs.namesOf path with
    | .ok names => .ok { headers, rows := rowsIn fs path names }
    | .error e => .error e.toFailure
  else
    match rowOf fs ((fileName? path).getD path) path with
    | .ok row => .ok { headers, rows := [row] }
    | .error _ => .error (.notFound s!"no such file or directory: {path}")

/-- List the named path, or else the working directory. Further arguments do not count. -/
def list (args : List String) : Action Output := do
  let path ← match args with
    | path :: _ => pure path
    | [] => Session.inspect FileSystem.workingDirectory
  match listing (← get).machine.files path with
  | .ok t => return .table t
  | .error e => throw e

/-! ### Processes -/

/-- The columns of the table of processes. -/
def processHeaders : List String := ["PID", "Name", "Memory", "Threads"]

/-- The row of a process; those of the user are marked. -/
def processRow (p : Process) : Row :=
  [{ value := .integer p.pid, highlighted := p.owned },
    { value := .text p.name, highlighted := p.owned },
    { value := .size (Size.format p.memory), highlighted := p.owned },
    { value := .integer p.threads, highlighted := p.owned }]

/-- The table of the running processes, by their numbers. -/
def processes : Action Output := do
  let running := (← get).machine.processes.mergeSort fun a b => a.pid ≤ b.pid
  return .table { headers := processHeaders, rows := running.map processRow }

end TableShell.Listing
