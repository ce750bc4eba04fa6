import ScriptedFeed.Text.Bytes

/-!
# Places in a text file

Messages point into a file by line and column. Lines are ended by line feeds only, and columns
count bytes.
-/

namespace ScriptedFeed

namespace Text

/-- The number of the line that some bytes from the start of a file lead to, counted from one. -/
def lineNumber (bytes : List UInt8) : Nat :=
  bytes.count lineFeed + 1

/-- The number of bytes since the last line feed. -/
def column (bytes : List UInt8) : Nat :=
  (bytes.reverse.takeWhile (· ≠ lineFeed)).length

end Text

end ScriptedFeed
