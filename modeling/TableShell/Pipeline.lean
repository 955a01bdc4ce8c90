import TableShell.Command.Run
import TableShell.Line.Words

/-!
# Pipelines

A line is a command, followed by filters for the table that the command produces. The command runs
before the filters are looked at, and the first failure ends the line. A failure is blamed on the
stage that it arose in.
-/

namespace TableShell.Pipeline

/-- The failure of a line that has filters but no command. -/
def missingCommand : Failure :=
  .invalidArgument "missing command before '|'"

/-- The failure of a stage without words. -/
def emptyStage : Failure :=
  (Failure.invalidArgument "empty filter stage").withDetail "filter" "|"

/-- The failure of a name that no command has. -/
def unknownCommand (name : String) : Failure :=
  (Failure.commandNotFound name).withDetail "command" name

/-- The failure of filters behind a command that produces no table. -/
def noTable (c : Command) : Failure :=
  let message := s!"'{c.name}' does not produce a table; filters need ls, dir or ps"
  (Failure.invalidArgument message).withDetail "command" c.name

/-- The failure of an action, blamed on a command. -/
def blame {α : Type} (c : Command) (action : Action α) : Action α := fun s =>
  match action s with
  | .ok a s => .ok a s
  | .error e s => .error (e.withDetail "command" c.name) s

/-- Read the stages behind the command. -/
def filterStages (stages : List String) : Except Failure (List Filter.Stage) :=
  stages.mapM fun stage =>
    match Filter.Stage.ofWords? (Line.words stage) with
    | some stage => .ok stage
    | none => .error emptyStage

/-- Hand the output of a command through the stages behind it. -/
def applyStages (c : Command) (output : Output) (stages : List String) : Except Failure Output :=
  if stages.isEmpty then .ok output
  else
    match output with
    | .table t => do return .table (← Filter.runChain t (← filterStages stages))
    | _ => .error (noTable c)

/-- Run the stages of a line. -/
def runStages (first : String) (rest : List String) : Action Output := do
  match Line.words first with
  | [] => if rest.isEmpty then return .nothing else throw missingCommand
  | name :: args =>
    match Command.find? name with
    | none => throw (unknownCommand name)
    | some c =>
      let output ← blame c (c.execute args)
      match applyStages c output rest with
      | .ok output => return output
      | .error e => throw e

/-- Run a line. -/
def run (line : String) : Action Output := do
  match Line.stages (Naming.expand (← get).shell.aliases line) with
  | [] => return .nothing
  | first :: rest => runStages first rest

/-! ### Reports -/

/-- What a line leaves behind: what it writes to the output and to the error stream, and the kind
of its failure. -/
structure Report where
  out : String := ""
  err : String := ""
  failed : Option FailureKind := none
  deriving DecidableEq, Repr

/-- Run a line and write its output, or else report its failure. -/
def executeLine (line : String) (s : Session) : Report × Session :=
  match run line s with
  | .ok output s => ({ out := output.written }, s)
  | .error e s => ({ err := e.report, failed := some e.kind }, s)

end TableShell.Pipeline
