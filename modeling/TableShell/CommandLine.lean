import TableShell.CommandLine.Arguments
import TableShell.CommandLine.LogFilter
import TableShell.Config
import TableShell.Pipeline

/-!
# The program

Running the shell without a terminal: a single line given as an argument, or the lines of the
standard input up to the one that asks to leave. The program fails if one of its lines does. Lines
run in this way do not enter the history.
-/

namespace TableShell.CommandLine

/-- What the program leaves behind: its exit code, and what it writes to the output and to the
error stream. -/
structure Result where
  code : Nat := 0
  out : String := ""
  err : String := ""
  deriving DecidableEq, Repr

/-! ### Logging -/

/-- The directory for log files. -/
def logDirectory? (directories : UserDirectories) : Option String :=
  directories.data.map fun data => joinPath (joinPath data "ghostsh") "logs"

/-- What is reported when nothing can be logged. -/
def loggingDisabled (reason : String) : String :=
  s!"ghostsh: logging disabled: {reason}\n"

/-- Make the directory for log files. What is in the way is reported and does no other harm. -/
def prepareLog (filter : Option String) (m : Machine) : String × Machine :=
  match (filter.map fun f => (f, LogFilter.check f)) with
  | some (f, .error e) => (loggingDisabled s!"Invalid log level: {f}: {e.message}", m)
  | _ =>
    match logDirectory? m.directories with
    | none => ("", m)
    | some path =>
      match m.files.makeDirectories path with
      | (.ok (), files) => ("", { m with files })
      | (.error e, files) =>
        (loggingDisabled s!"Failed to create log directory: {path}: {e.message}", { m with files })

/-! ### Running lines -/

/-- Run lines one after the other up to the one that asks to leave. -/
def runLines : List String → Session → Result × Session
  | [], s => ({}, s)
  | line :: rest, s =>
    let (report, s) := Pipeline.executeLine line s
    let code := if report.failed.isSome then 1 else 0
    let first : Result := { code, out := report.out, err := report.err }
    if s.shell.exitRequested then (first, s)
    else
      let (later, s) := runLines rest s
      ({ code := max first.code later.code, out := first.out ++ later.out
         err := first.err ++ later.err }, s)

/-- The shell that options ask for. -/
def startShell (o : Options) (m : Machine) : Shell :=
  let config := Config.loadOrDefault m.files m.directories o.config
  if o.inMemory then {} else .load m.files (config.storePaths m.directories)

/-- Run the shell with the given standard input. -/
def runShell (o : Options) (input : String) (m : Machine) : Result × Machine :=
  let (warning, m) := prepareLog o.logFilter m
  let lines := match o.command with
    | some line => [line]
    | none => Text.lines input
  let (result, s) := runLines lines { shell := startShell o m, machine := m }
  ({ result with err := warning ++ result.err }, s.machine)

/-! ### The program -/

/-- The name and the version of the program. -/
def versionText : String := "ghostsh_cli 0.1.0\n"

/-- How the program is used. -/
def usageText : String := "Usage: ghostsh_cli [OPTIONS]\n"

/-- What the program can be asked. -/
def helpText : String :=
  "Interactive shell with structured pipelines and inline suggestions\n\n" ++ usageText ++
    "\nOptions:\n" ++
    "  -c, --command <LINE>      Run one command line and exit\n" ++
    "      --config <PATH>       Configuration file\n" ++
    "      --log-level <FILTER>  Log filter\n" ++
    "      --no-history          Keep history, aliases and bookmarks in memory only\n" ++
    "  -h, --help                Print help\n" ++
    "  -V, --version             Print version\n"

/-- Run the program on its arguments and its standard input. -/
def run (args : List String) (input : String) (m : Machine) : Result × Machine :=
  match Request.parse args with
  | .error e => ({ code := 2, err := s!"error: {e.message}\n\n" ++ usageText }, m)
  | .ok .showHelp => ({ out := helpText }, m)
  | .ok .showVersion => ({ out := versionText }, m)
  | .ok (.run o) => runShell o input m

end TableShell.CommandLine
