/-!
# Contents of files

What a file holds: a text, bytes that need not be a text, or a run of zero bytes that is kept as
its length.
-/

namespace TableShell

/-- The contents of a file. -/
inductive Contents where
  /-- A text in UTF-8. -/
  | text (s : String)
  /-- Arbitrary bytes. -/
  | raw (bytes : List UInt8)
  /-- A number of zero bytes. -/
  | zeros (count : Nat)
  deriving DecidableEq, Repr

namespace Contents

/-- The number of bytes. -/
def size : Contents → Nat
  | text s => s.utf8ByteSize
  | raw bytes => bytes.length
  | zeros count => count

/-- The contents as a text, if they are valid UTF-8. -/
def asText? : Contents → Option String
  | text s => some s
  | raw bytes => String.fromUTF8? bytes.toByteArray
  | zeros count => some (.ofList (List.replicate count '\x00'))

/-- The contents followed by a text. -/
def append (c : Contents) (more : String) : Contents :=
  match c with
  | text s => text (s ++ more)
  | raw bytes => raw (bytes ++ more.toUTF8.toList)
  | zeros count => text (.ofList (List.replicate count '\x00') ++ more)

end Contents

end TableShell
