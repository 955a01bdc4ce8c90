import TableShell.Command.Files
import TableShell.Text.Alphanumeric

/-!
# Aliases and bookmarks

Aliases stand for the first word of a line, and bookmarks for directories.
-/

namespace TableShell.Naming

/-! ### Aliases -/

/-- Replace the first word of a line by the alias of that name. The word ends at a blank or a bar,
and the replacement is not looked at again. -/
def expand (aliases : Pairs) (line : String) : String :=
  let text := Text.trimStartChars line.toList
  let ends (c : Char) : Bool := Text.isBlank c || c == '|'
  let word := text.takeWhile fun c => !ends c
  if word.isEmpty then line
  else
    match aliases.get? (.ofList word) with
    | some replacement => replacement ++ .ofList (text.drop word.length)
    | none => line

/-- Whether a text can be the name of an alias: letters, digits and a few signs. -/
def isAliasName (name : List Char) : Bool :=
  !name.isEmpty && name.all fun c => Text.isAlphanumeric c || c == '_' || c == '-' || c == '.'

/-- List the aliases, show one, or define one. What is defined can have several words; it begins
after the first equals sign. -/
def aliases (args : List String) : Action Output := do
  let aliases := (← get).shell.aliases
  if args.isEmpty then
    return .lines (aliases.entries.map fun (name, command) => name ++ "=" ++ command)
  let joined := " ".intercalate args
  match Text.cutFirst '=' joined.toList with
  | some (name, command) =>
    let name := Text.trimChars name
    if !isAliasName name then
      throw (Command.aliases.misused ("invalid alias name '" ++ .ofList name ++ "'"))
    Session.setAliases (aliases.set (.ofList name) (.ofList (Text.trimChars command)))
    return .nothing
  | none =>
    match aliases.get? joined with
    | some command => return .line (joined ++ "=" ++ command)
    | none => throw (.notFound s!"no such alias: {joined}")

/-- Drop an alias. -/
def dropAlias (name : String) : Action Unit := do
  let aliases := (← get).shell.aliases
  if (aliases.get? name).isNone then throw (.notFound s!"no such alias: {name}")
  Session.setAliases (aliases.erase name)

/-- Drop aliases, up to the first that does not exist. -/
def unalias (args : List String) : Action Output := do
  if args.isEmpty then throw (Command.unalias.misused "missing alias name")
  args.forM dropAlias
  return .nothing

/-! ### Bookmarks -/

/-- The lines that list bookmarks, with the paths below each other. The width of the names is
counted in bytes. -/
def bookmarkLines (entries : List (String × String)) : List String :=
  let width := ((entries.map fun (name, _) => name.utf8ByteSize).max?).getD 0
  entries.map fun (name, path) => Text.padRight width name ++ "  " ++ path

/-- Add a bookmark for a named directory, or else for the working directory. -/
def addBookmark (name : String) (path : Option String) : Action Unit := do
  let target ← match path with
    | some path => Session.inspect fun fs => fs.canonical path
    | none => Session.inspect FileSystem.workingDirectory
  if !(← get).machine.files.isDirectory target then
    throw (.invalidArgument s!"not a directory: {target}")
  Session.setBookmarks ((← get).shell.bookmarks.set name target)

/-- Drop a bookmark. -/
def dropBookmark (name : String) : Action Unit := do
  let bookmarks := (← get).shell.bookmarks
  if (bookmarks.get? name).isNone then throw (.notFound s!"no such bookmark: {name}")
  Session.setBookmarks (bookmarks.erase name)

/-- List, add or drop bookmarks. -/
def bookmark (args : List String) : Action Output := do
  let listed : Action Output := do
    return .lines (bookmarkLines (← get).shell.bookmarks.entries)
  let missing : Failure := Command.bookmark.misused "missing bookmark name"
  let dropped (rest : List String) : Action Output := do
    match rest with
    | [] => throw missing
    | name :: _ =>
      dropBookmark name
      return .nothing
  match args with
  | [] => listed
  | "list" :: _ => listed
  | ["add"] => throw missing
  | "add" :: name :: rest =>
    addBookmark name rest.head?
    return .nothing
  | "rm" :: rest => dropped rest
  | "remove" :: rest => dropped rest
  | other :: _ => throw (Command.bookmark.misused s!"unknown subcommand '{other}'")

/-- Change to the directory of a bookmark. -/
def jump (args : List String) : Action Output := do
  match args with
  | [] => throw (Command.jump.misused "missing bookmark name")
  | name :: _ =>
    match (← get).shell.bookmarks.get? name with
    | none => throw (.notFound s!"no such bookmark: {name}")
    | some path =>
      Files.changeDirectory path
      return .nothing

end TableShell.Naming
