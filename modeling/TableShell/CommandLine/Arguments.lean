import TableShell.Text.Search

/-!
# Arguments of the program

What the program is called with. Options have a long name, and some a short one; the value of an
option follows it as the next argument, or behind an equals sign, or right behind a short name.
Every option can be given once.
-/

namespace TableShell.CommandLine

/-- The options of the program. -/
structure Options where
  /-- The line to run instead of the standard input. -/
  command : Option String := none
  /-- The file of settings. -/
  config : Option String := none
  /-- What is to be logged. -/
  logFilter : Option String := none
  /-- Keep the stores in memory only. -/
  inMemory : Bool := false
  deriving DecidableEq, Repr

/-- What the program is asked to do. -/
inductive Request where
  | run (options : Options)
  | showHelp
  | showVersion
  deriving DecidableEq, Repr

/-- Why arguments are refused. -/
inductive ArgumentError where
  | unexpected (argument : String)
  | missingValue (option : String)
  | repeated (option : String)
  | needlessValue (option : String)
  deriving DecidableEq, Repr

/-- The message for refused arguments. -/
def ArgumentError.message : ArgumentError → String
  | unexpected argument => s!"unexpected argument '{argument}' found"
  | missingValue option => s!"a value is required for '{option}' but none was supplied"
  | repeated option => s!"the argument '{option}' cannot be used multiple times"
  | needlessValue option => s!"unexpected value for '{option}' found; no more were expected"

/-- An option that takes a value. -/
inductive ValueOption where
  | command
  | config
  | logFilter
  deriving DecidableEq, Repr

namespace ValueOption

/-- The name of an option and of its value. -/
def display : ValueOption → String
  | command => "--command <LINE>"
  | config => "--config <PATH>"
  | logFilter => "--log-level <FILTER>"

/-- The option with a long name. -/
def ofLong? : String → Option ValueOption
  | "command" => some command
  | "config" => some config
  | "log-level" => some logFilter
  | _ => none

/-- The value of an option that has been given. -/
def get? (o : Options) : ValueOption → Option String
  | command => o.command
  | config => o.config
  | logFilter => o.logFilter

/-- Take on the value of an option. A file has a name. -/
def set (o : Options) (v : ValueOption) (value : String) : Except ArgumentError Options :=
  if (v.get? o).isSome then .error (.repeated v.display)
  else
    match v with
    | command => .ok { o with command := some value }
    | config =>
      if value.isEmpty then .error (.missingValue v.display)
      else .ok { o with config := some value }
    | logFilter => .ok { o with logFilter := some value }

end ValueOption

/-- What a single argument asks for. -/
inductive Argument where
  /-- An option with its value. -/
  | valued (v : ValueOption) (value : String)
  /-- An option whose value is the next argument. -/
  | awaiting (v : ValueOption)
  | inMemory
  | showHelp
  | showVersion
  | refused (e : ArgumentError)
  deriving DecidableEq, Repr

namespace Argument

/-- Read an argument that begins with two dashes. -/
def ofLong (text : List Char) : Argument :=
  let (name, value) := match Text.cutFirst '=' text with
    | some (name, value) => (String.ofList name, some (String.ofList value))
    | none => (String.ofList text, none)
  match ValueOption.ofLong? name, value with
  | some v, some value => valued v value
  | some v, none => awaiting v
  | none, value =>
    let known : Option Argument := match name with
      | "no-history" => some inMemory
      | "help" => some showHelp
      | "version" => some showVersion
      | _ => none
    match known, value with
    | some a, none => a
    | some _, some _ => refused (.needlessValue ("--" ++ name))
    | none, _ => refused (.unexpected ("--" ++ name))

/-- Read an argument that begins with one dash. -/
def ofShort : List Char → Argument
  | 'c' :: '=' :: value => valued .command (.ofList value)
  | ['c'] => awaiting .command
  | 'c' :: value => valued .command (.ofList value)
  | 'h' :: _ => showHelp
  | 'V' :: _ => showVersion
  | c :: _ => refused (.unexpected ("-" ++ String.singleton c))
  | [] => refused (.unexpected "-")

/-- Read an argument. -/
def read (text : String) : Argument :=
  match text.toList with
  | '-' :: '-' :: cs => ofLong cs
  | '-' :: c :: cs => ofShort (c :: cs)
  | _ => refused (.unexpected text)

end Argument

/-- Whether an argument can be the value of an option. -/
def isValue (text : String) : Bool :=
  match text.toList with
  | '-' :: _ :: _ => false
  | _ => true

/-- Read arguments. Behind two dashes alone there are no options any more. -/
def Options.parse : Options → List String → Except ArgumentError Request
  | o, [] => .ok (.run o)
  | o, ["--"] => .ok (.run o)
  | _, "--" :: extra :: _ => .error (.unexpected extra)
  | o, text :: rest =>
    match Argument.read text with
    | .valued v value => do parse (← v.set o value) rest
    | .awaiting v =>
      match rest with
      | [] => .error (.missingValue v.display)
      | value :: rest =>
        if isValue value then do parse (← v.set o value) rest
        else .error (.missingValue v.display)
    | .inMemory =>
      if o.inMemory then .error (.repeated "--no-history")
      else parse { o with inMemory := true } rest
    | .showHelp => .ok .showHelp
    | .showVersion => .ok .showVersion
    | .refused e => .error e

/-- What the program is asked to do by its arguments. -/
def Request.parse (args : List String) : Except ArgumentError Request :=
  Options.parse {} args

end TableShell.CommandLine
