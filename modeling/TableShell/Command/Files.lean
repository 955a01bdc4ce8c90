import TableShell.Command.Basic

/-!
# Commands on files and directories

Moving the working directory, showing files, and making and removing files and directories.
Commands that take several operands work through them in order and stop at the first failure.
-/

namespace TableShell.Files

/-! ### The working directory -/

/-- Change to a directory and remember the one that is left, if it still has a name. -/
def changeDirectory (path : String) : Action Unit := do
  let left := (← get).machine.files.workingDirectory.toOption
  if !(← get).machine.files.isDirectory path then
    throw (.notFound s!"no such directory: {path}")
  Session.change fun fs => fs.enter path
  modify fun s => { s with shell := { s.shell with previous := left } }

/-- Change to the home directory, to the directory before, or to a named directory. -/
def cd (args : List String) : Action Output := do
  let toHome : Action String := do
    match (← get).machine.directories.home with
    | some home => return home
    | none => throw (.notFound "home directory is unknown")
  let path ← match args with
    | [] => toHome
    | ["~"] => toHome
    | ["-"] => do
      match (← get).shell.previous with
      | some previous => pure previous
      | none => throw (.notFound "no previous directory")
    | [path] => pure path
    | _ => throw (Command.cd.misused "too many arguments")
  changeDirectory path
  return .nothing

/-- Show the working directory. -/
def pwd : Action Output := do
  return .line (← Session.inspect FileSystem.workingDirectory)

/-! ### Files -/

/-- The lines of a file. -/
def fileLines (path : String) : Action (List String) := fun s =>
  match s.machine.files.readText path with
  | .ok text => .ok (Text.lines text) s
  | .error e => .error (e.toFailure.withDetail "path" path) s

/-- Show the lines of files. -/
def cat (args : List String) : Action Output := do
  if args.isEmpty then throw (Command.cat.misused "missing file operand")
  return .lines (← args.mapM fileLines).flatten

/-- Make directories, with `-p` anywhere also those missing above them. -/
def mkdir (args : List String) : Action Output := do
  let withParents := args.contains "-p"
  let operands := args.filter (· != "-p")
  if operands.isEmpty then throw (Command.mkdir.misused "missing directory operand")
  operands.forM fun path =>
    if withParents then Session.changeInPart fun fs => fs.makeDirectories path
    else Session.change fun fs => fs.makeDirectory path
  return .nothing

/-- Remove a file, or a directory if that is allowed. -/
def removeOne (recursive : Bool) (path : String) : Action Unit := do
  if (← get).machine.files.isDirectory path then
    if !recursive then throw (.invalidArgument s!"{path} is a directory (use -r)")
    Session.changeInPart fun fs => fs.removeTree path
  else Session.change fun fs => fs.removeFile path

/-- Remove files, with `-r` anywhere also directories. Every word that begins with a dash is
taken for an option. -/
def rm (args : List String) : Action Output := do
  let recursive := args.any fun arg => arg == "-r" || arg == "-rf"
  let operands := args.filter fun arg => !Text.startsWith arg "-"
  if operands.isEmpty then throw (Command.rm.misused "missing operand")
  operands.forM (removeOne recursive)
  return .nothing

/-- Make empty files where there are none. -/
def touch (args : List String) : Action Output := do
  if args.isEmpty then throw (Command.touch.misused "missing file operand")
  args.forM fun path => Session.change fun fs => fs.touch path
  return .nothing

end TableShell.Files
