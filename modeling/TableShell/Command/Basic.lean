import TableShell.Session
import TableShell.Text.Ascii

/-!
# The commands

The commands that the shell runs itself, with their names and their descriptions.
-/

namespace TableShell

/-- The commands. -/
inductive Command where
  | ls
  | dir
  | ps
  | cd
  | pwd
  | cat
  | mkdir
  | rm
  | touch
  | history
  | aliases
  | unalias
  | bookmark
  | jump
  | echo
  | clear
  | exit
  | help
  deriving DecidableEq, Repr

namespace Command

/-- The commands in the order in which they are listed. -/
def all : List Command :=
  [ls, dir, ps, cd, pwd, cat, mkdir, rm, touch, history, aliases, unalias, bookmark, jump, echo,
    clear, exit, help]

/-- The name of a command. -/
def name : Command → String
  | ls => "ls"
  | dir => "dir"
  | ps => "ps"
  | cd => "cd"
  | pwd => "pwd"
  | cat => "cat"
  | mkdir => "mkdir"
  | rm => "rm"
  | touch => "touch"
  | history => "history"
  | aliases => "alias"
  | unalias => "unalias"
  | bookmark => "bookmark"
  | jump => "jump"
  | echo => "echo"
  | clear => "clear"
  | exit => "exit"
  | help => "help"

/-- What a command does, in one line. -/
def synopsis : Command → String
  | ls => "List a directory as a table (Name, Size, Type, Date)"
  | dir => "List a directory as a table (Name, Size, Type, Date)"
  | ps => "List processes as a table (PID, Name, Memory, Threads)"
  | cd => "Change the current directory"
  | pwd => "Print the current directory"
  | cat => "Print file contents"
  | mkdir => "Create directories"
  | rm => "Remove files, or directories with -r"
  | touch => "Create empty files"
  | history => "Show command history"
  | aliases => "Define or list command aliases"
  | unalias => "Remove command aliases"
  | bookmark => "List, add or remove directory bookmarks"
  | jump => "Change to a bookmarked directory"
  | echo => "Print arguments"
  | clear => "Clear the screen"
  | exit => "Leave the shell"
  | help => "Show this help"

/-- How a command is used. -/
def usage : Command → String
  | ls => "ls [path]"
  | dir => "ls [path]"
  | ps => "ps"
  | cd => "cd [dir | -]"
  | pwd => "pwd"
  | cat => "cat <file>..."
  | mkdir => "mkdir [-p] <dir>..."
  | rm => "rm [-r] <path>..."
  | touch => "touch <file>..."
  | history => "history [N]"
  | aliases => "alias [name=command]"
  | unalias => "unalias name..."
  | bookmark => "bookmark [list | add <name> [path] | rm <name>]"
  | jump => "jump <bookmark>"
  | echo => "echo [text]..."
  | clear => "clear"
  | exit => "exit"
  | help => "help"

/-- The names of all commands. -/
def names : List String := all.map name

/-- The command with a name, without regard to ASCII case. -/
def find? (s : String) : Option Command :=
  all.find? fun c => Text.sameIgnoringCase c.name s

/-- The failure of a command that is used wrongly. -/
def misused (c : Command) (problem : String) : Failure :=
  .usage c.name problem c.usage

end Command

end TableShell
