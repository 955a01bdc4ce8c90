import TableShell.Number.Binary64

/-!
# Items of a configuration

The values that a TOML document can hold, and the tables that it is built of. A table remembers how
it came about, because that decides what may still be added to it.
-/

namespace TableShell.Toml

/-- How a table came about. -/
inductive TableKind where
  /-- By a header of its own. -/
  | header
  /-- On the way to a deeper header. -/
  | implied
  /-- By a key with dots. -/
  | dotted
  /-- Within braces; nothing can be added to it. -/
  | inline
  deriving DecidableEq, Repr

/-- An item under a key. -/
inductive Item where
  | string (text : String)
  | integer (n : Int)
  | real (x : Binary64)
  | boolean (b : Bool)
  /-- A date, a time of day, or both, as it is written. -/
  | moment (text : String)
  | array (items : List Item)
  | table (kind : TableKind) (entries : List (String × Item))
  /-- Tables with the same repeated header. -/
  | tables (elements : List (List (String × Item)))

/-- The items of a table by their keys. -/
abbrev Entries := List (String × Item)

namespace Entries

/-- The item under a key. -/
def get? (entries : Entries) (key : String) : Option Item :=
  entries.lookup key

/-- Put an item under a key, in place of what was there. -/
def put (entries : Entries) (key : String) (item : Item) : Entries :=
  entries.filter (fun e => e.1 != key) ++ [(key, item)]

/-- Put an item under a key that is still free. -/
def insertNew? (entries : Entries) (key : String) (item : Item) : Option Entries :=
  match entries.get? key with
  | some _ => none
  | none => some (entries ++ [(key, item)])

/-! ### Keys with dots -/

/-- Put an item under a key with dots, whose last part is `key`. The tables on the way are made as
needed. Tables of a header or in braces are not entered, and the innermost table has to be one of
keys with dots. -/
def insertDotted? : (path : List String) → (key : String) → Item → Entries → Option Entries
  | [], key, item, entries => entries.insertNew? key item
  | part :: path, key, item, entries =>
    match entries.get? part with
    | none =>
      (insertDotted? path key item []).map fun inner => entries.put part (.table .dotted inner)
    | some (.table kind inner) =>
      if kind == .header || kind == .inline || (path.isEmpty && kind != .dotted) then none
      else (insertDotted? path key item inner).map fun inner => entries.put part (.table kind inner)
    | some (.tables elements) =>
      match elements.getLast? with
      | none => none
      | some last =>
        if path.isEmpty then none
        else
          (insertDotted? path key item last).map fun last =>
            entries.put part (.tables (elements.dropLast ++ [last]))
    | some _ => none

/-! ### Headers -/

/-- Change the table that the path of a header leads to. The tables on the way are made as needed,
and of tables with a repeated header the last one is meant. -/
def changeAt? (change : Entries → Option Entries) :
    (path : List String) → Entries → Option Entries
  | [], entries => change entries
  | part :: path, entries =>
    match entries.get? part with
    | none => (changeAt? change path []).map fun inner => entries.put part (.table .implied inner)
    | some (.table kind inner) =>
      if kind == .inline then none
      else (changeAt? change path inner).map fun inner => entries.put part (.table kind inner)
    | some (.tables elements) =>
      match elements.getLast? with
      | none => none
      | some last =>
        (changeAt? change path last).map fun last =>
          entries.put part (.tables (elements.dropLast ++ [last]))
    | some _ => none

/-- A key with its item; the key is given by the parts before its last dot and the last part. -/
structure Assignment where
  path : List String
  key : String
  item : Item

/-- Add items to a table. -/
def assign? (entries : Entries) (assignments : List Assignment) : Option Entries :=
  assignments.foldlM (fun entries a => insertDotted? a.path a.key a.item entries) entries

/-- Define a table under a key. A table on the way to deeper headers keeps what it holds; any other
table or item cannot be defined again. -/
def define? (key : String) (assignments : List Assignment) (entries : Entries) : Option Entries :=
  let start := match entries.get? key with
    | none => some []
    | some (.table .implied inner) => some inner
    | some _ => none
  (start.bind fun start => assign? start assignments).map fun inner =>
    entries.put key (.table .header inner)

/-- Add a table to those with the same repeated header. -/
def append? (key : String) (assignments : List Assignment) (entries : Entries) : Option Entries :=
  let earlier := match entries.get? key with
    | none => some []
    | some (.tables elements) => some elements
    | some _ => none
  earlier.bind fun earlier =>
    (assign? [] assignments).map fun inner => entries.put key (.tables (earlier ++ [inner]))

end Entries

end TableShell.Toml
