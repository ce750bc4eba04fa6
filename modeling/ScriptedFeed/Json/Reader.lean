import ScriptedFeed.Instant.Timestamp
import ScriptedFeed.Json.Skip

/-!
# Reading typed values

A document is read by a reader for the type that is wanted. Readers of arrays and records are
built from readers of their elements and members. A record is written as an object with its
members in any order, or as an array of its members in the order of the record; members with
unknown names are passed over.
-/

namespace ScriptedFeed

namespace Json

/-- The failure of a value of the wrong type, given the rest of the document from its start. -/
def mismatch (wanted : String) (bytes : List UInt8) : Failure :=
  let wrongType (found : Found) (rest : List UInt8) : Failure :=
    .before (.wrongType found wanted) rest
  match bytes with
  | [] => .before .unfinishedValue []
  | byte :: rest =>
      match leadOf byte with
      | .null =>
          match readWord wordNull rest with
          | .ok rest => wrongType .null rest
          | .error failure => failure
      | .yes =>
          match readWord wordTrue rest with
          | .ok rest => wrongType (.flag true) rest
          | .error failure => failure
      | .no =>
          match readWord wordFalse rest with
          | .ok rest => wrongType (.flag false) rest
          | .error failure => failure
      | .minus =>
          match readNumber true rest with
          | .ok (number, rest) => wrongType number.found rest
          | .error failure => failure
      | .digit =>
          match readNumber false bytes with
          | .ok (number, rest) => wrongType number.found rest
          | .error failure => failure
      | .text =>
          match readText rest with
          | .ok (text, rest) => wrongType (.text text) rest
          | .error failure => failure
      | .array => wrongType .array bytes
      | .object => wrongType .object bytes
      | .nothing => .inFirst .noValue bytes

/-- Reads a text; the wanted type is named in messages. -/
def readTextAs (wanted : String) : Reader String := fun bytes =>
  match skipBlanks bytes with
  | [] => .error (.before .unfinishedValue [])
  | byte :: rest =>
      match leadOf byte with
      | .text => readText rest
      | _ => .error (mismatch wanted (byte :: rest))

def readString : Reader String :=
  readTextAs "a string"

/-- Reads a number; the wanted type is named in messages. -/
def readNumberAs (wanted : String) : Reader Number := fun bytes =>
  match skipBlanks bytes with
  | [] => .error (.before .unfinishedValue [])
  | byte :: rest =>
      match leadOf byte with
      | .minus => readNumber true rest
      | .digit => readNumber false (byte :: rest)
      | _ => .error (mismatch wanted (byte :: rest))

/-- Reads an integer between two bounds; the wanted type is named in messages. -/
def readIntegerAs (wanted : String) (least greatest : Int) : Reader Int := fun bytes => do
  let (number, rest) ← readNumberAs wanted bytes
  match number with
  | .integer value =>
      if least ≤ value ∧ value ≤ greatest then .ok (value, rest)
      else .error (.before (.wrongValue number.found wanted) rest)
  | .float _ => .error (.before (.wrongType number.found wanted) rest)

/-- Reads a signed integer of 64 bits. -/
def readSignedInteger : Reader Int :=
  readIntegerAs "i64" (-(maxSigned + 1)) maxSigned

/-- Reads an unsigned integer of 64 bits; the wanted type is named in messages. -/
def readUnsignedAs (wanted : String) : Reader UInt64 := fun bytes => do
  let (value, rest) ← readIntegerAs wanted 0 maxUnsigned bytes
  .ok (UInt64.ofNat value.toNat, rest)

/-- The floating-point number nearest to an integer that was read. -/
def nearestFloat (value : Int) : Binary64 :=
  (Magnitude.ofNat? value.natAbs).elim (.infinite (value < 0)) (.finite (value < 0))

def readFloat : Reader Binary64 := fun bytes => do
  let (number, rest) ← readNumberAs "f64" bytes
  match number with
  | .integer value => .ok (nearestFloat value, rest)
  | .float value => .ok (value, rest)

/-- Reads a yes or no. -/
def readFlag : Reader Bool := fun bytes =>
  match skipBlanks bytes with
  | [] => .error (.before .unfinishedValue [])
  | byte :: rest =>
      match leadOf byte with
      | .yes => return (true, ← readWord wordTrue rest)
      | .no => return (false, ← readWord wordFalse rest)
      | _ => .error (mismatch "a boolean" (byte :: rest))

def readNull : Reader Unit := fun bytes =>
  match skipBlanks bytes with
  | [] => .error (.before .unfinishedValue [])
  | byte :: rest =>
      match leadOf byte with
      | .null => return ((), ← readWord wordNull rest)
      | _ => .error (mismatch "unit" (byte :: rest))

/-- Reads an instant, written as a timestamp. -/
def readInstant : Reader Instant := fun bytes => do
  let (text, rest) ← readTextAs "an RFC 3339 formatted date and time string" bytes
  match Instant.ofTimestamp text.toList with
  | .ok instant => .ok (instant, rest)
  | .error fault => .error (.before (.malformedText fault.message) rest)

namespace Frame

/--
The rest of the document from where the item that starts with a byte is read: an element from that
byte on, a member from the first character of its name.
-/
def startItem (frame : Frame) (byte : UInt8) (rest : List UInt8) : Except Failure (List UInt8) :=
  match frame with
  | array => .ok (byte :: rest)
  | object =>
      if byte = Text.quotationMark then .ok rest
      else .error (.inFirst .keyIsNotText (byte :: rest))

/-- The rest of the document from where the next item is read, or nothing at the end. -/
def nextItem? (frame : Frame) (isFirst : Bool) (bytes : List UInt8) :
    Except Failure (Option (List UInt8)) :=
  match skipBlanks bytes with
  | [] => .error (.before frame.unfinished [])
  | byte :: rest =>
      if byte = frame.closer then .ok none
      else if isFirst then do return some (← frame.startItem byte rest)
      else if byte = Text.comma then
        match skipBlanks rest with
        | [] => .error (.before .unfinishedValue [])
        | next :: others =>
            if next = frame.closer then .error (.inFirst .trailingComma (next :: others))
            else do return some (← frame.startItem next others)
      else .error (.inFirst frame.missingComma (byte :: rest))

end Frame

def readChoiceWord (choices : List (String × α)) : Reader α := fun bytes => do
  let (word, rest) ← readTextAs "variant identifier" bytes
  match choices.lookup word with
  | some value => .ok (value, rest)
  | none => .error (.before (.unknownChoice word (choices.map Prod.fst)) rest)

/-- Reads the end of an object that holds a choice. -/
def endChoice (bytes : List UInt8) : Except Failure (List UInt8) :=
  match skipBlanks bytes with
  | [] => .error (.before .unfinishedObject [])
  | byte :: rest =>
      if byte = closeBrace then .ok rest else .error (.before .noValue (byte :: rest))

/-- Reads the word of a choice that stands as the only name in an object. -/
def readChoiceName (choices : List (String × α)) : Reader α := fun bytes => do
  match ← Frame.object.nextItem? true bytes with
  | some _ => readChoiceWord choices bytes
  | none => .error (.inFirst .noValue (skipBlanks bytes))

/-- Reads one of several choices: its word, or an object with nothing under that word. -/
def readChoice (choices : List (String × α)) : Reader α := fun bytes =>
  match skipBlanks bytes with
  | [] => .error (.before .unfinishedValue [])
  | byte :: rest =>
      match leadOf byte with
      | .text => readChoiceWord choices (byte :: rest)
      | .object => do
          let (value, rest) ← readChoiceName choices rest
          let (_, rest) ← readNull (← readColon rest)
          .ok (value, ← endChoice rest)
      | _ => .error (.inFirst .noValue (byte :: rest))

def endArray (bytes : List UInt8) : Except Failure (List UInt8) :=
  match skipBlanks bytes with
  | [] => .error (.before .unfinishedArray [])
  | byte :: rest =>
      if byte = closeBracket then .ok rest
      else if byte = Text.comma then
        match skipBlanks rest with
        | [] => .error (.before .trailingCharacters [])
        | next :: others =>
            if next = closeBracket then .error (.inFirst .trailingComma (next :: others))
            else .error (.inFirst .trailingCharacters (next :: others))
      else .error (.inFirst .trailingCharacters (byte :: rest))

/--
Reads the elements of an array up to its end. The first list is as long as what is to be read; an
element of it is spent for each element of the array.
-/
def readElements (element : Reader α) :
    List UInt8 → Bool → List UInt8 → Except Failure (List α × List UInt8)
  | [], _, bytes => .error (.before .unfinishedArray bytes)
  | _ :: fuel, isFirst, bytes => do
      match ← Frame.array.nextItem? isFirst bytes with
      | none => .ok ([], bytes)
      | some rest =>
          let (value, rest) ← element rest
          let (others, rest) ← readElements element fuel false rest
          .ok (value :: others, rest)

/-- Reads an array, given the reader of its elements. -/
def readArray (element : Reader α) : Reader (List α) := fun bytes =>
  match skipBlanks bytes with
  | [] => .error (.before .unfinishedValue [])
  | byte :: rest =>
      match leadOf byte with
      | .array => do
          let (values, rest) ← readElements element rest true rest
          .ok (values, ← endArray rest)
      | _ => .error (mismatch "a sequence" (byte :: rest))

/-- A member of a record that is being gathered. -/
structure Member (draft : Type) where
  /-- The name of the member. -/
  name : String
  /-- Further names that it goes by. -/
  aliases : List String
  /-- Whether the member may be left out. -/
  isOptional : Bool
  /-- Whether the record gathered so far has the member. -/
  isGiven : draft → Bool
  /-- Reads the member into the record gathered so far. -/
  readInto : draft → Reader draft

/-- A kind of record: how its members are gathered and what is made of them. -/
structure RecordShape (draft value : Type) where
  /-- The name of the kind, for messages. -/
  name : String
  /-- The members in their order. -/
  members : List (Member draft)
  /-- The record before any member is given. -/
  start : draft
  /-- The value of a gathered record, or the name of a member that it needs and lacks. -/
  finish : draft → Except String value

namespace RecordShape

variable {draft value : Type}

/-- The member with a name, under whichever of its names. -/
def member? (shape : RecordShape draft value) (name : String) : Option (Member draft) :=
  shape.members.find? fun member => member.name == name || member.aliases.contains name

/-- The value of a gathered record, read up to the given rest of the document. -/
def finishAt (shape : RecordShape draft value) (gathered : draft) (rest : List UInt8) :
    Except Failure (value × List UInt8) :=
  match shape.finish gathered with
  | .ok value => .ok (value, rest)
  | .error name => .error (.before (.missingMember name) rest)

/-- Gathers members from the elements of an array, given how many were gathered before. -/
def readPositions (shape : RecordShape draft value) :
    Nat → List (Member draft) → draft → List UInt8 → Except Failure (draft × List UInt8)
  | _, [], gathered, bytes => .ok (gathered, bytes)
  | position, member :: members, gathered, bytes => do
      match ← Frame.array.nextItem? (position = 0) bytes with
      | none =>
          if member.isOptional then shape.readPositions (position + 1) members gathered bytes
          else
            .error (.before (.wrongLength position shape.name shape.members.length)
              (← endArray bytes))
      | some rest =>
          let (gathered, rest) ← member.readInto gathered rest
          shape.readPositions (position + 1) members gathered rest

/-- Reads a record from an array of its members, after the opening bracket. -/
def readFromArray (shape : RecordShape draft value) (bytes : List UInt8) :
    Except Failure (value × List UInt8) := do
  let (gathered, rest) ← shape.readPositions 0 shape.members shape.start bytes
  shape.finishAt gathered (← endArray rest)

end RecordShape

def endObject (bytes : List UInt8) : Except Failure (List UInt8) :=
  match skipBlanks bytes with
  | [] => .error (.before .unfinishedObject [])
  | byte :: rest =>
      if byte = closeBrace then .ok rest
      else if byte = Text.comma then .error (.inFirst .trailingComma (byte :: rest))
      else .error (.inFirst .trailingCharacters (byte :: rest))

/-- The rest of the document from where an object is given up: after its end if it ends here. -/
def leaveObject (bytes : List UInt8) : List UInt8 :=
  match skipBlanks bytes with
  | [] => []
  | byte :: rest => if byte = closeBrace then rest else byte :: rest

namespace RecordShape

variable {draft value : Type}

/-- Reads one member of an object, given its name and the rest of the document after it. -/
def readMember (shape : RecordShape draft value) (name : String) (gathered : draft)
    (bytes : List UInt8) : Except Failure (draft × List UInt8) :=
  match shape.member? name with
  | none => do return (gathered, ← skipValue (← readColon bytes))
  | some member =>
      if member.isGiven gathered then
        .error (.before (.repeatedMember member.name) (leaveObject bytes))
      else do member.readInto gathered (← readColon bytes)

/--
Gathers members from an object up to its end. The first list is as long as what is to be read; an
element of it is spent for each member.
-/
def readMembers (shape : RecordShape draft value) :
    List UInt8 → Bool → draft → List UInt8 → Except Failure (draft × List UInt8)
  | [], _, _, bytes => .error (.before .unfinishedObject bytes)
  | _ :: fuel, isFirst, gathered, bytes => do
      match ← Frame.object.nextItem? isFirst bytes with
      | none => .ok (gathered, bytes)
      | some rest =>
          let (name, rest) ← readText rest
          let (gathered, rest) ← shape.readMember name gathered rest
          shape.readMembers fuel false gathered rest

/-- Reads a record from an object, after the opening brace. -/
def readFromObject (shape : RecordShape draft value) (bytes : List UInt8) :
    Except Failure (value × List UInt8) := do
  let (gathered, rest) ← shape.readMembers bytes true shape.start bytes
  shape.finishAt gathered (← endObject rest)

/-- Reads a record in either form. -/
def read (shape : RecordShape draft value) : Reader value := fun bytes =>
  match skipBlanks bytes with
  | [] => .error (.before .unfinishedValue [])
  | byte :: rest =>
      match leadOf byte with
      | .array => shape.readFromArray rest
      | .object => shape.readFromObject rest
      | _ => .error (mismatch ("struct " ++ shape.name) (byte :: rest))

end RecordShape

/-- Reads a value after which only blanks may follow. -/
def readToEnd (reader : Reader α) (document : List UInt8) : Except Failure α := do
  let (value, rest) ← reader document
  match skipBlanks rest with
  | [] => .ok value
  | byte :: others => .error (.inFirst .trailingCharacters (byte :: others))

def readDocument (reader : Reader α) (document : List UInt8) : Except Error α :=
  (readToEnd reader document).mapError fun failure => failure.locate document

end Json

end ScriptedFeed
