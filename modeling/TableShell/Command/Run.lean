import TableShell.Calendar
import TableShell.Command.Listing
import TableShell.Command.Naming
import TableShell.Filter

/-!
# Running commands

The remaining commands, and the table that runs each command on its arguments.
-/

namespace TableShell.Command

/-! ### History -/

/-- The date of an entry; entries without a time, and times that cannot be shown, have a rule. -/
def entryDate (timestamp : Int) : String :=
  let known := if 0 < timestamp then Calendar.dateText? timestamp else none
  known.getD (.ofList (List.replicate 16 '-'))

/-- The lines that show the last entries of a log, numbered from the start of the log. -/
def historyLines (entries : List HistoryEntry) (shown : Nat) : List String :=
  let total := entries.length
  let start := total - shown
  let width := total.repr.length
  (entries.drop start).mapIdx fun i e =>
    Text.padLeft width (start + i + 1).repr ++ "  " ++ entryDate e.timestamp ++ "  " ++ e.command

/-- Show the history, or its last entries. -/
def showHistory (args : List String) : Action Output := do
  let entries := (← get).shell.history.history.entries
  match args with
  | [] => return .lines (historyLines entries entries.length)
  | word :: _ =>
    match readWord? word with
    | some n => return .lines (historyLines entries n)
    | none => throw (history.misused s!"'{word}' is not a count")

/-! ### Help -/

/-- The commands with their descriptions, and the filters with their usage lines. -/
def helpLines : List String :=
  let width := ((names.map String.length).max?).getD 0
  "Commands:" ::
    (all.map fun c => "  " ++ Text.padRight width c.name ++ "  " ++ c.synopsis) ++
    ["", "Filters (after `ls`, `dir` or `ps`, separated by |):"] ++
    Filter.all.map fun f => "  " ++ f.usage

/-! ### All commands -/

/-- Ask the shell to end after this line. -/
def leave : Action Output := do
  modify fun s => { s with shell := { s.shell with exitRequested := true } }
  return .nothing

/-- Run a command on its arguments. -/
def execute (c : Command) (args : List String) : Action Output :=
  match c with
  | ls => Listing.list args
  | dir => Listing.list args
  | ps => Listing.processes
  | cd => Files.cd args
  | pwd => Files.pwd
  | cat => Files.cat args
  | mkdir => Files.mkdir args
  | rm => Files.rm args
  | touch => Files.touch args
  | history => showHistory args
  | aliases => Naming.aliases args
  | unalias => Naming.unalias args
  | bookmark => Naming.bookmark args
  | jump => Naming.jump args
  | echo => pure (.line (" ".intercalate args))
  | clear => pure .clearScreen
  | exit => leave
  | help => pure (.lines helpLines)

end TableShell.Command
