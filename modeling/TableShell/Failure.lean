/-!
# Failures

Everything that can go wrong while a line is run. A failure has a cause, which fixes its kind and
its message, and a context of named details such as the command or the filter that failed.
-/

namespace TableShell

/-- The kinds of failures that callers tell apart. -/
inductive FailureKind where
  /-- A buffer could not grow. -/
  | allocation
  /-- A filter named a column that the table does not have. -/
  | unknownField
  /-- An argument does not fit. -/
  | invalidArgument
  /-- A bookmark, an alias or a path does not exist. -/
  | notFound
  /-- The first word of a line names no command. -/
  | commandNotFound
  /-- Reading or writing failed. -/
  | io
  /-- A configuration file is unusable. -/
  | config
  deriving DecidableEq, Repr

/-- Why an operation failed. -/
inductive Cause where
  /-- A buffer could not grow. -/
  | outOfMemory (buffer : String)
  /-- A column is not among the available ones. -/
  | unknownField (field : String) (available : List String)
  /-- A command or filter was used in a way that its usage line does not allow. -/
  | usage (problem hint : String)
  /-- An argument does not fit. -/
  | invalidArgument (message : String)
  /-- Something named does not exist. -/
  | notFound (message : String)
  /-- No command has this name. -/
  | commandNotFound (command : String)
  /-- Reading or writing failed. -/
  | io (reason : String)
  /-- A configuration file is unusable. -/
  | config (message : String)
  deriving DecidableEq, Repr

namespace Cause

/-- The kind of failure that a cause leads to. -/
def kind : Cause → FailureKind
  | outOfMemory _ => .allocation
  | unknownField _ _ => .unknownField
  | usage .. => .invalidArgument
  | invalidArgument _ => .invalidArgument
  | notFound _ => .notFound
  | commandNotFound _ => .commandNotFound
  | io _ => .io
  | config _ => .config

/-- The message shown for a cause. -/
def message : Cause → String
  | outOfMemory buffer => s!"out of memory while growing {buffer}"
  | unknownField field available =>
    s!"unknown field '{field}'. Available fields: " ++ ", ".intercalate available
  | usage problem hint => s!"{problem}\nUsage: {hint}"
  | invalidArgument message => message
  | notFound message => message
  | commandNotFound command => s!"command not found: {command}"
  | io reason => s!"I/O error: {reason}"
  | config message => message

end Cause

/-- A cause together with named details, each name at most once. -/
structure Failure where
  cause : Cause
  context : List (String × String) := []
  deriving DecidableEq, Repr

namespace Failure

/-- The kind of the cause. -/
def kind (f : Failure) : FailureKind := f.cause.kind

/-- The message of the cause. -/
def message (f : Failure) : String := f.cause.message

/-- The detail with the given name. -/
def detail? (f : Failure) (name : String) : Option String :=
  f.context.lookup name

/-- Add a detail, in place of an earlier one with the same name. -/
def withDetail (f : Failure) (name value : String) : Failure :=
  { f with context := f.context.filter (fun entry => entry.1 != name) ++ [(name, value)] }

/-! ### Common failures -/

/-- A column is not among the available ones. -/
def unknownField (field : String) (available : List String) : Failure :=
  { cause := .unknownField field available, context := [("field", field)] }

/-- A command or filter was used in a way that its usage line does not allow. -/
def usage (command problem hint : String) : Failure :=
  { cause := .usage problem hint, context := [("command", command)] }

/-- An argument does not fit. -/
def invalidArgument (message : String) : Failure := { cause := .invalidArgument message }

/-- Something named does not exist. -/
def notFound (message : String) : Failure := { cause := .notFound message }

/-- No command has this name. -/
def commandNotFound (command : String) : Failure := { cause := .commandNotFound command }

/-- A named buffer could not grow. -/
def outOfMemory (buffer : String) : Failure :=
  { cause := .outOfMemory buffer, context := [("buffer", buffer)] }

/-- The name of the buffer that holds the line being edited. -/
def lineBuffer : String := "line buffer"

/-- Whether the shell can go on. Only the loss of the line being edited is final. -/
def isRecoverable (f : Failure) : Bool :=
  !(f.kind == .allocation && f.detail? "buffer" == some lineBuffer)

/-! ### Reports -/

/-- Who a failure is blamed on: the filter if one is named, else the command, else the shell. -/
def blamed (f : Failure) : String :=
  match f.detail? "filter", f.detail? "command" with
  | some filter, _ => filter
  | none, some command => command
  | none, none => "ghostsh"

/-- The line that reports a failure. -/
def report (f : Failure) : String :=
  s!"{f.blamed}: {f.message}\n"

end Failure

end TableShell
