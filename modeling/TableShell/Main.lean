import TableShell.CommandLine

/-!
# The executable

The program on its own: the arguments and the standard input are those of the process, and the
files are a tree in memory that holds the home and the working directory and nothing else.
-/

namespace TableShell.CommandLine

/-- Everything on the standard input from here on. -/
partial def readRest (input : IO.FS.Stream) (before : String) : IO String := do
  let line ← input.getLine
  if line.isEmpty then return before else readRest input (before ++ line)

/-- The standard input, which is left alone unless its lines are to be run. -/
def readInput (args : List String) : IO String :=
  match Request.parse args with
  | .ok (.run o) => do
    if o.command.isSome then return "" else readRest (← IO.getStdin) ""
  | _ => return ""

/-- A machine that holds the home directory, if there is one, and the working directory. -/
def startMachine (home : Option String) (working : String) : Machine :=
  let made := (home.toList ++ [working]).foldl (fun fs path => (fs.makeDirectories path).2)
    ({} : FileSystem)
  { files := (made.enter working).toOption.getD made
    directories := (home.map UserDirectories.below).getD {} }

end TableShell.CommandLine

open TableShell.CommandLine in
/-- Run the shell on the arguments, the surroundings and the standard input of the process. -/
def main (args : List String) : IO UInt32 := do
  let home ← IO.getEnv "HOME"
  let working := (← IO.getEnv "PWD").getD "/"
  let (result, _) := run args (← readInput args) (startMachine home working)
  IO.print result.out
  IO.eprint result.err
  return result.code.toUInt32
