import TableShell.FileSystem.Lookup

/-!
# Changing the tree

Making directories, writing, extending and removing files, and moving the working directory. An
operation that fails changes nothing, except that making a chain of directories keeps those that
it has made, and removing a tree removes what is below it first.
-/

namespace TableShell.FileSystem

/-! ### Where something is made -/

/-- The directory that holds what a path name names, and its last piece; nothing for the root. -/
def holderOf (fs : FileSystem) (path : String) : Except FileError (Option (Place × String)) := do
  checkName path
  let name := PathName.parse path
  match name.parts.getLast? with
  | none => return none
  | some last =>
    let (holder, _) ← fs.walk {} maxLinks (fs.startOf name.absolute) name.parts.dropLast
    match fs.nodeAt? holder with
    | some .directory => return some (holder, last)
    | _ => throw .notDirectory

/-- Make a directory. -/
def makeDirectory (fs : FileSystem) (path : String) : Except FileError FileSystem := do
  match ← fs.holderOf path with
  | none => throw .alreadyExists
  | some (holder, last) =>
    if last == "." || last == ".." then throw .alreadyExists
    let place ← fs.child holder last
    match fs.node? place.live with
    | some _ => throw .alreadyExists
    | none => return fs.put place.live { node := .directory, modified := fs.clock }

/-- Make a directory and those that it is missing above it. The number bounds the pieces of the
path name. The answer comes with the tree as it then stands, also after a failure. -/
def makeChain (fs : FileSystem) (path : String) :
    (pieces : Nat) → Except FileError Unit × FileSystem
  | 0 => (.ok (), fs)
  | pieces + 1 =>
    if path.isEmpty then (.ok (), fs)
    else
      let settle (fs : FileSystem) : Except FileError Unit × FileSystem :=
        match fs.makeDirectory path with
        | .ok fs => (.ok (), fs)
        | .error e => (if fs.isDirectory path then .ok () else .error e, fs)
      match fs.makeDirectory path with
      | .ok fs => (.ok (), fs)
      | .error .notFound =>
        match parentPath? path with
        | none => (.error .notFound, fs)
        | some above =>
          match makeChain fs above pieces with
          | (.ok (), fs) => settle fs
          | (.error e, fs) => (.error e, fs)
      | .error e => (if fs.isDirectory path then .ok () else .error e, fs)

/-- Make a directory and those that it is missing above it. -/
def makeDirectories (fs : FileSystem) (path : String) : Except FileError Unit × FileSystem :=
  fs.makeChain path (path.length + 1)

/-- Make the directories that are missing above a file. -/
def makeParents (fs : FileSystem) (path : String) : Except FileError Unit × FileSystem :=
  match parentPath? path with
  | some above => if above.isEmpty then (.ok (), fs) else fs.makeDirectories above
  | none => (.ok (), fs)

/-! ### Writing -/

/-- What a path name names for writing: the directory that holds it, its place there, whether or not
something stands there, and the number of links that may still be followed. What the path name
demands to be a directory is not looked up. -/
def placeToWrite (fs : FileSystem) (links : Nat) (start : Place) (name : PathName) :
    Except FileError (Place × Place × Nat) := do
  match name.parts.getLast? with
  | none => throw .isDirectory
  | some last =>
    let (holder, links) ← fs.walk {} links start name.parts.dropLast
    if fs.nodeAt? holder != some .directory then throw .notDirectory
    if last == "." || last == ".." || name.trailing then throw .isDirectory
    return (holder, ← fs.child holder last, links)

/-- The location of the file that a path name opens for writing, whether or not it exists. Links at
the end are followed, each by one of `turns`; with those on the way there are at most `links` of
them. -/
def writeLocation (fs : FileSystem) :
    (turns links : Nat) → Place → PathName → Except FileError Location
  | turns, links, start, name => do
    let (holder, place, links) ← fs.placeToWrite links start name
    match fs.node? place.live with
    | some .directory => throw .isDirectory
    | some (.link target) =>
      match turns with
      | 0 => throw .tooManyLinks
      | turns + 1 =>
        match links with
        | 0 => throw .tooManyLinks
        | links + 1 =>
          checkName target
          let next := PathName.parse target
          writeLocation fs turns links (if next.absolute then Place.root else holder) next
    | _ => return place.live

/-- The location of the file that a path name opens for writing. -/
def writable (fs : FileSystem) (path : String) : Except FileError Location := do
  checkName path
  let name := PathName.parse path
  fs.writeLocation maxLinks maxLinks (fs.startOf name.absolute) name

/-- Replace the contents of a file, which is made if it does not exist. -/
def writeFile (fs : FileSystem) (path : String) (contents : Contents) :
    Except FileError FileSystem := do
  let loc ← fs.writable path
  return fs.put loc { node := .file contents, modified := fs.clock }

/-- Extend a file by a text; the file is made if it does not exist. -/
def appendText (fs : FileSystem) (path : String) (text : String) : Except FileError FileSystem := do
  let loc ← fs.writable path
  let old := match fs.node? loc with
    | some (.file contents) => contents
    | _ => .text ""
  return fs.put loc { node := .file (old.append text), modified := fs.clock }

/-- Make an empty file unless there is one. -/
def touch (fs : FileSystem) (path : String) : Except FileError FileSystem := do
  let loc ← fs.writable path
  match fs.node? loc with
  | some _ => return fs
  | none => return fs.put loc { node := .file (.text ""), modified := fs.clock }

/-! ### Removing -/

/-- Remove a file or a link. -/
def removeFile (fs : FileSystem) (path : String) : Except FileError FileSystem := do
  match ← fs.holderOf path with
  | none => throw .isDirectory
  | some (holder, last) =>
    if last == "." || last == ".." then throw .isDirectory
    let place ← fs.child holder last
    match fs.node? place.live with
    | none => throw .notFound
    | some .directory => throw .isDirectory
    | some _ =>
      if (PathName.parse path).trailing then throw .notDirectory
      return fs.removeAt place.live

/-- Why a directory cannot be removed under the path name that names it, if it cannot: a path
name that ends in a dot, or the root, does not name an entry of a directory, and a link is no
directory. -/
def removalFault? (fs : FileSystem) (path : String) : Option FileError :=
  match fs.holderOf path with
  | .error e => some e
  | .ok none => some .busy
  | .ok (some (holder, last)) =>
    if last == "." then some .invalid
    else if last == ".." then some .notEmpty
    else
      match fs.child holder last with
      | .error e => some e
      | .ok place =>
        match fs.node? place.live with
        | some .directory => none
        | some _ => some .notDirectory
        | none => some .notFound

/-- Remove everything below a location. -/
def clearBelow (fs : FileSystem) (loc : Location) : FileSystem :=
  (fs.namesIn loc).foldl (fun fs name => fs.removeAt (loc ++ [name])) fs

/-- Remove a directory and everything below it, or a link. What is below the directory is removed
also when the directory itself cannot be. A path name that leads nowhere any more once that is gone
counts as removed. -/
def removeTree (fs : FileSystem) (path : String) : Except FileError Unit × FileSystem :=
  match fs.resolve path false with
  | .error e => (.error e, fs)
  | .ok place =>
    match fs.nodeAt? place with
    | some .directory =>
      let cleared := if place.lost.isEmpty then fs.clearBelow place.live else fs
      match cleared.removalFault? path with
      | none => (.ok (), cleared.removeAt place.live)
      | some .notFound => (.ok (), cleared)
      | some e => (.error e, cleared)
    | some (.link _) =>
      match fs.removeFile path with
      | .ok fs => (.ok (), fs)
      | .error e => (.error e, fs)
    | _ => (.error .notDirectory, fs)

/-! ### The working directory -/

/-- Make the directory that a path name leads to the working directory. -/
def enter (fs : FileSystem) (path : String) : Except FileError FileSystem := do
  let p ← fs.resolve path true
  match fs.nodeAt? p with
  | some .directory => return { fs with here := p }
  | _ => throw .notDirectory

end TableShell.FileSystem
