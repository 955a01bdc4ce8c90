import TableShell.Number.Integer
import TableShell.Text.Blank
import TableShell.Text.Search

/-!
# History of submitted lines

A history is a log of submitted lines with their times and a table that counts how often each line
was used. Both are bounded: the log drops its oldest entries, the table its least used lines. Lines
of the table are ranked as suggestions for a line that is being typed.

The log and the table are written as lines `command|time` and `command|count`. A command can hold
bars itself, so a line is cut at its last one.
-/

namespace TableShell

/-- A submitted line and the time of its submission, in seconds. -/
structure HistoryEntry where
  command : String
  timestamp : Int
  deriving DecidableEq, Repr

/-- A line and the number of its uses. -/
structure Usage where
  command : String
  count : Nat
  deriving DecidableEq, Repr

/-- A log of lines and their counts, both with at most `maxEntries` entries. Counts stand in the
order in which their lines were first seen. -/
structure History where
  entries : List HistoryEntry := []
  usages : List Usage := []
  maxEntries : Nat := 10000
  deriving DecidableEq, Repr, Inhabited

namespace History

/-! ### Counting -/

/-- Add to the count of a line; a line that is not counted yet comes last. Counts stop at the
largest unsigned 64-bit number. -/
def addUses (usages : List Usage) (command : String) (uses : Nat) : List Usage :=
  match usages with
  | [] => [{ command, count := uses }]
  | u :: rest =>
    if u.command == command then { u with count := min (u.count + uses) maxWord } :: rest
    else u :: addUses rest command uses

/-- The count of a line; a line that is not counted has none. -/
def countOf (h : History) (command : String) : Nat :=
  ((h.usages.find? fun u => u.command == command).map Usage.count).getD 0

/-! ### Bounds -/

/-- Those of the places whose lines are not `kept`, by rising counts; places whose lines have the
same count stay in their order. -/
def dropOrder (kept : Option String) {ι : Type} (usageAt : ι → Usage) (places : List ι) : List ι :=
  (places.filter fun i => some (usageAt i).command != kept).mergeSort
    fun i j => (usageAt i).count ≤ (usageAt j).count

/-- A flag for each of `size` places, set at the given ones. -/
def flagsAt {size : Nat} (places : List (Fin size)) : Vector Bool size :=
  places.foldl (fun flags (i : Fin size) => flags.set i true) (Vector.replicate size false)

/-- Drop the least used lines until at most `limit` are left; `kept` is never dropped. As many of
the first places in the order are flagged as lines are too many, and the lines without a flag are
left. -/
def boundUsages (kept : Option String) (limit : Nat) (usages : List Usage) : List Usage :=
  if usages.length ≤ limit then usages
  else
    let table := usages.toArray
    let order := dropOrder kept (fun i => table[i]) (List.finRange table.size)
    let flags := flagsAt (order.take (table.size - limit))
    ((usages.zip flags.toList).filter fun flagged => !flagged.2).map Prod.fst

/-- Drop the oldest entries until at most `limit` are left. -/
def boundEntries (limit : Nat) (entries : List HistoryEntry) : List HistoryEntry :=
  entries.drop (entries.length - limit)

/-- Bring the log and the table within the bound. -/
def bounded (h : History) : History :=
  { h with
    entries := boundEntries h.maxEntries h.entries
    usages := boundUsages none h.maxEntries h.usages }

/-- Change the bound, which is at least one. -/
def withMaxEntries (h : History) (limit : Nat) : History :=
  { h with maxEntries := max limit 1 }.bounded

/-! ### Recording -/

/-- Whether a submitted line is recorded: it holds something and does not begin with a space. -/
def isRecorded (line : String) : Bool :=
  !Text.isBlankText line && line.toList.head? != some ' '

/-- The entry of a submitted line; blanks at its end do not count. -/
def entryOf (line : String) (now : Int) : HistoryEntry :=
  { command := Text.trimEnd line, timestamp := now }

/-- Record a submitted line: log it and count it. The line itself is never dropped from the
table. -/
def record (h : History) (line : String) (now : Int) : History :=
  if isRecorded line then
    let entry := entryOf line now
    let logged := { h with entries := h.entries ++ [entry] }.bounded
    { logged with
      usages := boundUsages (some entry.command) logged.maxEntries
        (addUses logged.usages entry.command 1) }
  else h

/-! ### Suggestions -/

/-- The lines of a table by falling counts, in the order of the table where counts are equal. -/
def ranked (usages : List Usage) : List String :=
  (usages.mergeSort fun a b => b.count ≤ a.count).map Usage.command

/-- The lines that may continue `typed`: first those that begin with it and then, if it has at
least `minSubstring` characters, those that contain it elsewhere; the more used ones first. -/
def suggestions (h : History) (typed : String) (minSubstring : Nat) : List String :=
  if typed.isEmpty then []
  else
    let others := h.usages.filter fun u => u.command != typed
    let beginning := others.filter fun u => Text.startsWith u.command typed
    let containing := others.filter fun u =>
      !Text.startsWith u.command typed && Text.contains u.command typed
    ranked beginning ++ if minSubstring ≤ typed.length then ranked containing else []

/-! ### Files -/

/-- Read a line of the log. A line without a time after its last bar is a command of unknown time
as a whole; a blank line is none. -/
def parseEntry? (line : String) : Option HistoryEntry :=
  if Text.isBlankText line then none
  else
    let timed := (Text.cutLast '|' line.toList).bind fun (command, time) =>
      (readInteger? (.ofList (Text.trimChars time))).map fun t =>
        { command := .ofList command, timestamp := t }
    some (timed.getD { command := line, timestamp := 0 })

/-- Read a line of the table. A line without a count after its last bar, or with a blank command,
is none. -/
def parseUsage? (line : String) : Option Usage :=
  (Text.cutLast '|' line.toList).bind fun (command, count) =>
    (readWord? (.ofList (Text.trimChars count))).bind fun n =>
      if command.all Text.isBlank then none else some { command := .ofList command, count := n }

/-- The line of an entry in the log. -/
def entryLine (e : HistoryEntry) : String :=
  e.command ++ "|" ++ toString e.timestamp ++ "\n"

/-- The line of a count in the table. -/
def usageLine (u : Usage) : String :=
  u.command ++ "|" ++ u.count.repr ++ "\n"

/-- The text of a table. -/
def usagesText (usages : List Usage) : String :=
  "".intercalate (usages.map usageLine)

/-- The log and the table read from the lines of their texts, within the usual bound. Counts of
the same command are added up. -/
def ofLines (entryLines usageLines : List String) : History :=
  { entries := entryLines.filterMap parseEntry?
    usages := (usageLines.filterMap parseUsage?).foldl
      (fun usages u => addUses usages u.command u.count) [] : History }.bounded

/-- The log and the table read from their texts. -/
def ofTexts (log table : String) : History :=
  ofLines (Text.lines log) (Text.lines table)

end History

end TableShell
