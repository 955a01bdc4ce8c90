import TableShell.Completion.Basic
import TableShell.Session
import TableShell.Toml.Document

/-!
# Configuration

The settings of the shell and the file that holds them, a TOML document with a section for each
group of settings. Whatever the file does not set keeps its usual value, and whatever it sets
besides does not count.
-/

namespace TableShell

/-- The settings of the line editor. -/
structure EditorConfig where
  suggestions : Bool := true
  ringSize : Nat := 50
  minFrequencyPrefix : Nat := 2
  minSubstringPrefix : Nat := 3
  deriving DecidableEq, Repr

/-- The settings of the history. -/
structure HistoryConfig where
  files : HistoryFiles := {}
  maxEntries : Nat := 10000
  deriving DecidableEq, Repr

/-- The files of the other stores. -/
structure StoreConfig where
  aliases : Option String := none
  bookmarks : Option String := none
  deriving DecidableEq, Repr

/-- The settings of the shell. -/
structure Config where
  editor : EditorConfig := {}
  history : HistoryConfig := {}
  stores : StoreConfig := {}
  /-- The prompt, in which `cwd` and `user` in braces stand for what they name. -/
  prompt : String := "\x7bcwd\x7d> "
  deriving DecidableEq, Repr

/-- Why a file of settings cannot be read or written. -/
inductive ConfigError where
  | unreadable (path : String)
  | malformed (path : String)
  | noDirectory
  | unwritable (path : String)
  deriving DecidableEq, Repr

/-- The message for an error. -/
def ConfigError.message : ConfigError → String
  | unreadable path => s!"Failed to read config file: {path}"
  | malformed path => s!"Failed to parse config file: {path}"
  | noDirectory => "Failed to create config directory"
  | unwritable path => s!"Failed to write config file: {path}"

namespace Config

/-! ### Use -/

/-- The lengths from which on suggestions are looked up. -/
def suggestOptions (c : Config) : SuggestOptions where
  minFrequencyPrefix := c.editor.minFrequencyPrefix
  minSubstringPrefix := c.editor.minSubstringPrefix

/-- The prompt for a working directory and a user. -/
def promptFor (c : Config) (cwd user : String) : String :=
  Text.replaceAll (Text.replaceAll c.prompt "\x7bcwd\x7d" cwd) "\x7buser\x7d" user

/-- Where the stores are kept. What is not set is below the data directory of the user. -/
def storePaths (c : Config) (directories : UserDirectories) : StorePaths :=
  let usual := StorePaths.default directories
  { history :=
      { log := c.history.files.log <|> usual.history.log
        table := c.history.files.table <|> usual.history.table }
    aliases := c.stores.aliases <|> usual.aliases
    bookmarks := c.stores.bookmarks <|> usual.bookmarks
    maxHistory := some c.history.maxEntries }

/-- The usual place of the file of settings. -/
def defaultPath? (directories : UserDirectories) : Option String :=
  directories.config.map fun config => joinPath (joinPath config "ghostsh") "config.toml"

/-! ### Reading -/

/-- The settings of a section: a table, or an array with the settings in their order. A date stands
for a table that sets nothing. -/
inductive Settings where
  | named (entries : Toml.Entries)
  | listed (items : List Toml.Item)

/-- The settings that an item holds. -/
def Settings.ofItem? : Toml.Item → Option Settings
  | .table _ entries => some (.named entries)
  | .array items => some (.listed items)
  | .tables elements => some (.listed (elements.map (.table .header)))
  | .moment _ => some (.named [])
  | _ => none

/-- A setting by its name or its place. -/
def Settings.get? (s : Settings) (place : Nat) (name : String) : Option Toml.Item :=
  match s with
  | named entries => Toml.Entries.get? entries name
  | listed items => items[place]?

/-- Read a setting, or take its usual value where it is not set. -/
def Settings.read? {α : Type} (s : Settings) (place : Nat) (name : String)
    (decode : Toml.Item → Option α) (usual : α) : Option α :=
  match s.get? place name with
  | none => some usual
  | some item => decode item

/-- Read a truth value. -/
def boolean? : Toml.Item → Option Bool
  | .boolean b => some b
  | _ => none

/-- Read a number that is not negative. -/
def natural? : Toml.Item → Option Nat
  | .integer n => if 0 ≤ n then some n.toNat else none
  | _ => none

/-- Read a text. -/
def text? : Toml.Item → Option String
  | .string text => some text
  | _ => none

/-- Read a path name, which need not be set. -/
def path? (i : Toml.Item) : Option (Option String) :=
  (text? i).map some

/-- Read the settings of the line editor. -/
def editor? (i : Toml.Item) : Option EditorConfig := do
  let s ← Settings.ofItem? i
  let usual : EditorConfig := {}
  return {
    suggestions := ← s.read? 0 "suggestions" boolean? usual.suggestions
    ringSize := ← s.read? 1 "ring_size" natural? usual.ringSize
    minFrequencyPrefix := ← s.read? 2 "min_frequency_prefix" natural? usual.minFrequencyPrefix
    minSubstringPrefix := ← s.read? 3 "min_substring_prefix" natural? usual.minSubstringPrefix }

/-- Read the settings of the history. -/
def history? (i : Toml.Item) : Option HistoryConfig := do
  let s ← Settings.ofItem? i
  let usual : HistoryConfig := {}
  let log ← s.read? 0 "history_file" path? none
  let table ← s.read? 1 "frequency_file" path? none
  return {
    files := { log, table }
    maxEntries := ← s.read? 2 "max_entries" natural? usual.maxEntries }

/-- Read the files of the other stores. -/
def stores? (i : Toml.Item) : Option StoreConfig := do
  let s ← Settings.ofItem? i
  return {
    aliases := ← s.read? 0 "alias_file" path? none
    bookmarks := ← s.read? 1 "bookmark_file" path? none }

/-- Read the prompt. -/
def prompt? (i : Toml.Item) : Option String := do
  let s ← Settings.ofItem? i
  let usual : Config := {}
  s.read? 0 "template" text? usual.prompt

/-- Read settings. -/
def parse? (text : String) : Option Config := do
  let s := Settings.named (← Toml.parse? text)
  let usual : Config := {}
  return {
    editor := ← s.read? 0 "editor" editor? usual.editor
    history := ← s.read? 1 "history" history? usual.history
    stores := ← s.read? 2 "stores" stores? usual.stores
    prompt := ← s.read? 3 "prompt" prompt? usual.prompt }

/-- Load a file of settings. -/
def load (fs : FileSystem) (path : String) : Except ConfigError Config :=
  match fs.readText path with
  | .error _ => .error (.unreadable path)
  | .ok text =>
    match parse? text with
    | some config => .ok config
    | none => .error (.malformed path)

/-- Load a file of settings, by default the usual one. A file that does not exist or cannot be used
sets nothing. -/
def loadOrDefault (fs : FileSystem) (directories : UserDirectories) (path : Option String) :
    Config :=
  match path <|> defaultPath? directories with
  | none => {}
  | some path => (load fs path).toOption.getD {}

/-! ### Writing -/

/-- A line that sets a value. -/
def settingLine (name value : String) : String :=
  name ++ " = " ++ value ++ "\n"

/-- A line that sets a path name, if it is set. -/
def pathLine (name : String) (value : Option String) : String :=
  match value with
  | some path => settingLine name (Toml.quote path)
  | none => ""

/-- The text of a file of settings. -/
def text (c : Config) : String :=
  "[editor]\n" ++ settingLine "suggestions" (if c.editor.suggestions then "true" else "false") ++
    settingLine "ring_size" c.editor.ringSize.repr ++
    settingLine "min_frequency_prefix" c.editor.minFrequencyPrefix.repr ++
    settingLine "min_substring_prefix" c.editor.minSubstringPrefix.repr ++
    "\n[history]\n" ++ pathLine "history_file" c.history.files.log ++
    pathLine "frequency_file" c.history.files.table ++
    settingLine "max_entries" c.history.maxEntries.repr ++
    "\n[stores]\n" ++ pathLine "alias_file" c.stores.aliases ++
    pathLine "bookmark_file" c.stores.bookmarks ++
    "\n[prompt]\n" ++ settingLine "template" (Toml.quote c.prompt)

/-- Write a file of settings, and make the directories above it. -/
def save (c : Config) (fs : FileSystem) (path : String) : Except ConfigError Unit × FileSystem :=
  match fs.makeParents path with
  | (.error _, fs) => (.error .noDirectory, fs)
  | (.ok (), fs) =>
    match fs.writeFile path (.text c.text) with
    | .error _ => (.error (.unwritable path), fs)
    | .ok fs => (.ok (), fs)

end Config

end TableShell
