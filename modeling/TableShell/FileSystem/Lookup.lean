import TableShell.FileSystem.Basic

/-!
# Following path names

A path name is followed piece by piece from the root or from the working directory. Every piece
has to be looked up in a directory. A symbolic link on the way is replaced by its target, at most
forty times; a link at the end is followed or not, as the operation demands.
-/

namespace TableShell.FileSystem

/-- The number of bytes that a name in a directory can have. -/
def maxNameLength : Nat := 255

/-- The number of bytes that a path name can have. -/
def maxPathLength : Nat := 4095

/-- The number of symbolic links that are followed for one path name. -/
def maxLinks : Nat := 40

/-- Refuse a path name that is empty, is too long or holds a NUL character. -/
def checkName (path : String) : Except FileError Unit :=
  if path.toList.contains '\x00' then .error .nulInName
  else if path.isEmpty then .error .notFound
  else if maxPathLength < path.utf8ByteSize then .error .nameTooLong
  else .ok ()

/-- What stands at a place. A removed directory is still an empty directory. -/
def nodeAt? (fs : FileSystem) (p : Place) : Option Node :=
  if p.lost.isEmpty then fs.node? p.live else some .directory

/-- Where a path name starts. -/
def startOf (fs : FileSystem) (absolute : Bool) : Place :=
  if absolute then .root else fs.here

/-- The place of a name in the directory at `p`, whether or not something stands there. Nothing
can be found or made in a removed directory, but it still leads up. -/
def child (fs : FileSystem) (p : Place) (name : String) : Except FileError Place :=
  match fs.nodeAt? p with
  | some .directory =>
    if name == "." then .ok p
    else if name == ".." then
      if p.lost.isEmpty then .ok { live := p.live.dropLast }
      else .ok { p with lost := p.lost.dropLast }
    else if !p.lost.isEmpty then .error .notFound
    else if maxNameLength < name.utf8ByteSize then .error .nameTooLong
    else .ok { live := p.live ++ [name] }
  | _ => .error .notDirectory

/-- How a path name is followed. -/
structure Route where
  /-- Whether a link at the end is followed. -/
  followLast : Bool := true
  /-- Whether what stands on the way is looked up by its full path name, which then has to fit. -/
  byFullName : Bool := false
  deriving DecidableEq, Repr

/-- Refuse a place whose path name is too long to be looked up by it. -/
def checkReach (route : Route) (name : String) (p : Place) : Except FileError Unit :=
  if route.byFullName && name != "." && name != ".." &&
      maxPathLength < p.live.display.utf8ByteSize then
    .error .nameTooLong
  else .ok ()

/-- A link that a walk has met: the directory that holds it, its target, and the pieces that
follow. -/
structure Detour where
  holder : Place
  target : String
  rest : List String

/-- Follow pieces up to the end or to a link that has to be followed. -/
def advance (fs : FileSystem) (route : Route) :
    Place → List String → Except FileError (Place ⊕ Detour)
  | p, [] => .ok (.inl p)
  | p, name :: rest => do
    let next ← fs.child p name
    checkReach route name next
    match fs.nodeAt? next with
    | none => throw .notFound
    | some (.link target) =>
      if rest.isEmpty && !route.followLast then return .inl next
      else return .inr { holder := p, target, rest }
    | some _ => advance fs route next rest

/-- Follow pieces to the end, with at most `links` links on the way. The answer comes with the
number of links that may still be followed. -/
def walk (fs : FileSystem) (route : Route) :
    (links : Nat) → Place → List String → Except FileError (Place × Nat)
  | links, p, parts => do
    match ← fs.advance route p parts with
    | .inl place => return (place, links)
    | .inr detour =>
      match links with
      | 0 => throw .tooManyLinks
      | links + 1 =>
        checkName detour.target
        let target := PathName.parse detour.target
        let start := if target.absolute then Place.root else detour.holder
        walk fs route links start (target.steps ++ detour.rest)

/-- The place that a path name leads to. -/
def resolve (fs : FileSystem) (path : String) (followLast : Bool) : Except FileError Place := do
  checkName path
  let name := PathName.parse path
  return (← fs.walk { followLast } maxLinks (fs.startOf name.absolute) name.steps).1

/-! ### Questions -/

/-- Whether a path name leads to something. -/
def pathExists (fs : FileSystem) (path : String) : Bool :=
  match fs.resolve path true with
  | .ok _ => true
  | .error _ => false

/-- Whether a path name leads to a directory. -/
def isDirectory (fs : FileSystem) (path : String) : Bool :=
  match fs.resolve path true with
  | .ok p => fs.nodeAt? p == some .directory
  | .error _ => false

/-- The entry that a path name leads to. A removed directory carries no time. -/
def entryOf (fs : FileSystem) (path : String) : Except FileError Entry := do
  let p ← fs.resolve path true
  if p.lost.isEmpty then
    match fs.entry? p.live with
    | some e => return e
    | none => throw .notFound
  else return { node := .directory }

/-- The names in the directory that a path name leads to, in the order of code points. -/
def namesOf (fs : FileSystem) (path : String) : Except FileError (List String) := do
  let p ← fs.resolve path true
  match fs.nodeAt? p with
  | some .directory => return if p.lost.isEmpty then fs.namesIn p.live else []
  | _ => throw .notDirectory

/-- The text of the file that a path name leads to. -/
def readText (fs : FileSystem) (path : String) : Except FileError String := do
  let e ← fs.entryOf path
  match e.node with
  | .file contents =>
    match contents.asText? with
    | some text => return text
    | none => throw .notText
  | _ => throw .isDirectory

/-- The path name of the working directory. A removed one has none. -/
def workingDirectory (fs : FileSystem) : Except FileError String :=
  if fs.here.lost.isEmpty then .ok fs.here.live.display else .error .notFound

/-- The path name without links and detours of what a path name leads to. It is found from the path
name of the working directory, piece by piece; the path name itself may be of any length. -/
def canonical (fs : FileSystem) (path : String) : Except FileError String := do
  if path.toList.contains '\x00' then throw .nulInName
  if path.isEmpty then throw .notFound
  let name := PathName.parse path
  if !name.absolute then
    let _ ← fs.workingDirectory
  let start := fs.startOf name.absolute
  return (← fs.walk { byFullName := true } maxLinks start name.steps).1.live.display

end TableShell.FileSystem
