import ScriptedFeed.Json.Fault

/-!
# The bytes that structure a document

Every value is recognised by its first byte. Between values, brackets, commas and colons, blanks
may stand freely.
-/

namespace ScriptedFeed

namespace Json

/-- A step of reading: from the rest of a document to a value and the rest after it. -/
abbrev Reader (α : Type) := List UInt8 → Except Failure (α × List UInt8)

/-- The byte that starts an escape. -/
def backslash : UInt8 := 0x5C

/-- The byte between the name and the value of a member. -/
def colon : UInt8 := 0x3A

/-- The byte that starts an array. -/
def openBracket : UInt8 := 0x5B

/-- The byte that ends an array. -/
def closeBracket : UInt8 := 0x5D

/-- The byte that starts an object. -/
def openBrace : UInt8 := 0x7B

/-- The byte that ends an object. -/
def closeBrace : UInt8 := 0x7D

def minus : UInt8 := 0x2D

def plus : UInt8 := 0x2B

def point : UInt8 := 0x2E

/-- The letter n, which starts the word for nothing. -/
def letterN : UInt8 := 0x6E

/-- The letter t, which starts the word for yes. -/
def letterT : UInt8 := 0x74

/-- The letter f, which starts the word for no. -/
def letterF : UInt8 := 0x66

/-- Whether a byte may stand between the parts of a document. -/
def isBlank (byte : UInt8) : Bool :=
  byte = 0x20 || byte = Text.lineFeed || byte = Text.carriageReturn || byte = 0x09

/-- The rest of the document from its first byte that is not blank. -/
def skipBlanks (bytes : List UInt8) : List UInt8 :=
  bytes.dropWhile isBlank

def isDigit (byte : UInt8) : Bool :=
  0x30 ≤ byte && byte ≤ 0x39

def digitOf (byte : UInt8) : Nat :=
  byte.toNat - 0x30

/-- Whether a byte announces a power of ten. -/
def isExponentMark (byte : UInt8) : Bool :=
  byte = 0x65 || byte = 0x45

/-- The kind of value that a byte starts. -/
inductive Lead where
  | null
  | yes
  | no
  | minus
  | digit
  | text
  | array
  | object
  | nothing
deriving DecidableEq, Repr

/-- The kind of value that starts with a byte. -/
def leadOf (byte : UInt8) : Lead :=
  if byte = letterN then .null
  else if byte = letterT then .yes
  else if byte = letterF then .no
  else if byte = Json.minus then .minus
  else if isDigit byte then .digit
  else if byte = Text.quotationMark then .text
  else if byte = openBracket then .array
  else if byte = openBrace then .object
  else .nothing

/-- Reads the rest of a word that its first letter has announced. -/
def readWord : List UInt8 → List UInt8 → Except Failure (List UInt8)
  | [], bytes => .ok bytes
  | _ :: _, [] => .error (.before .unfinishedValue [])
  | letter :: letters, byte :: rest =>
      if byte = letter then readWord letters rest else .error (.before .misspeltWord rest)

/-- The word for nothing after its first letter. -/
def wordNull : List UInt8 := [0x75, 0x6C, 0x6C]

/-- The word for yes after its first letter. -/
def wordTrue : List UInt8 := [0x72, 0x75, 0x65]

/-- The word for no after its first letter. -/
def wordFalse : List UInt8 := [0x61, 0x6C, 0x73, 0x65]

def readColon (bytes : List UInt8) : Except Failure (List UInt8) :=
  match skipBlanks bytes with
  | [] => .error (.before .unfinishedObject [])
  | byte :: rest =>
      if byte = colon then .ok rest else .error (.inFirst .missingColon (byte :: rest))

end Json

end ScriptedFeed
