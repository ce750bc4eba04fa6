/-!
# Bytes with a meaning of their own

The formats of text files share the bytes that part their lines, their items and their texts.
-/

namespace ScriptedFeed

namespace Text

/-- The byte that ends a line. -/
def lineFeed : UInt8 := 0x0A

/-- The byte before a line feed in some files. -/
def carriageReturn : UInt8 := 0x0D

/-- The byte between fields, elements and members. -/
def comma : UInt8 := 0x2C

/-- The byte around texts. -/
def quotationMark : UInt8 := 0x22

end Text

end ScriptedFeed
