import ScriptedFeed.Storage.FileTree
import ScriptedFeed.Text.Location

/-!
# Tables of comma-separated values

A table is a sequence of rows, one a line, whose fields are parted by commas. A field that starts
with a quotation mark may hold commas and line breaks, and quotation marks if they are doubled; it
ends at a mark that stands alone, and what follows that mark up to the next comma or line break
belongs to the field as it stands. Either of the two line break characters ends a row, and empty
lines are passed over. The first row is the header, and every row has as many fields as it has.
-/

namespace ScriptedFeed

namespace Csv

/-- The bytes that a file may start with to mark itself as text. -/
def textMark : List UInt8 := [0xEF, 0xBB, 0xBF]

/-- Whether a byte ends a row. -/
def isLineBreak (byte : UInt8) : Bool :=
  byte = Text.lineFeed || byte = Text.carriageReturn

/-- Whether a byte ends a field that is not quoted. -/
def endsField (byte : UInt8) : Bool :=
  byte = Text.comma || isLineBreak byte

/-- Reads a field that is not quoted, or what follows the quoted part of one. -/
def readPlain (bytes : List UInt8) : List UInt8 × List UInt8 :=
  bytes.span fun byte => !endsField byte

/-- Reads a quoted field after its opening mark; the end of the file closes it as well. -/
def readQuoted : List UInt8 → List UInt8 × List UInt8
  | [] => ([], [])
  | byte :: rest =>
      if byte = Text.quotationMark then
        match rest with
        | [] => ([], [])
        | next :: others =>
            if next = Text.quotationMark then
              let (field, rest) := readQuoted others
              (Text.quotationMark :: field, rest)
            else readPlain (next :: others)
      else
        let (field, rest) := readQuoted rest
        (byte :: field, rest)

def readField (bytes : List UInt8) : List UInt8 × List UInt8 :=
  match bytes with
  | [] => ([], [])
  | byte :: rest => if byte = Text.quotationMark then readQuoted rest else readPlain bytes

/--
Reads the fields of a row up to the line break that ends it. The first list is as long as what is
to be read; an element of it is spent for each comma.
-/
def readFieldsWithin : List UInt8 → List UInt8 → List (List UInt8) × List UInt8
  | fuel, bytes =>
      let (field, rest) := readField bytes
      match fuel, rest with
      | _, [] => ([field], [])
      | [], _ :: others => ([field], others)
      | _ :: fuel, byte :: others =>
          if byte = Text.comma then
            let (fields, rest) := readFieldsWithin fuel others
            (field :: fields, rest)
          else ([field], others)

/-- Reads the fields of a row up to the line break that ends it. -/
def readFields (bytes : List UInt8) : List (List UInt8) × List UInt8 :=
  readFieldsWithin bytes bytes

/-- A row as it stands in the file. -/
structure Row where
  fields : List (List UInt8)
  /-- The number of the row; the header is row zero. -/
  number : Nat
  /-- What remained of the file when reading the row began. -/
  start : List UInt8
deriving DecidableEq, Repr

/--
Reads rows up to the end of the file, given how many were read before. The first list is as long
as what is to be read; an element of it is spent for each row.
-/
def readRowsWithin : List UInt8 → Nat → List UInt8 → List Row
  | [], _, _ => []
  | _ :: fuel, number, bytes =>
      match bytes.dropWhile isLineBreak with
      | [] => []
      | byte :: others =>
          let (fields, rest) := readFields (byte :: others)
          ⟨fields, number, bytes⟩ :: readRowsWithin fuel (number + 1) rest

/-- Reads rows up to the end of the file. -/
def readRows (bytes : List UInt8) : List Row :=
  readRowsWithin bytes 0 bytes

/-- Where reading a row began. -/
structure RowPlace where
  /-- The number of the row; the header is row zero. -/
  number : Nat
  line : Nat
  /-- The number of bytes before. -/
  offset : Nat
deriving DecidableEq, Repr

/-- Where reading a row of a file began. -/
def Row.place (row : Row) (file : List UInt8) : RowPlace :=
  let offset := file.length - row.start.length
  ⟨row.number, Text.lineNumber (file.take offset), offset⟩

/-- The file without the mark that it may start with. -/
def dropTextMark (file : List UInt8) : List UInt8 :=
  if textMark.isPrefixOf file then file.drop textMark.length else file

inductive Error where
  /-- A row has another number of fields than the header. -/
  | unequalWidths (place : RowPlace) (found expected : Nat)
  /-- A field is not text from the given byte on. -/
  | notText (place : RowPlace) (field index : Nat)
  /-- The file cannot be read. -/
  | unreadable (fault : StorageFault)
deriving DecidableEq

namespace Error

def fieldMessage (field index : Nat) : String :=
  "invalid UTF-8 in field " ++ toString field ++ " near byte index " ++ toString index

def message : Error → String
  | unequalWidths place found expected =>
      "CSV error: record " ++ toString place.number ++ " (line: " ++ toString place.line ++
        ", byte: " ++ toString place.offset ++ "): found record with " ++ toString found ++
        " fields, but the previous record has " ++ toString expected ++ " fields"
  | notText place field index =>
      "CSV parse error: record " ++ toString place.number ++ " (line " ++ toString place.line ++
        ", field: " ++ toString field ++ ", byte: " ++ toString place.offset ++
        "): invalid utf-8: " ++ fieldMessage field index
  | unreadable fault => fault.message

end Error

namespace Row

/-- Decodes fields of a row into texts, given the number of fields before them. -/
def decodeFields (row : Row) (file : List UInt8) :
    Nat → List (List UInt8) → Except Error (List (List Char))
  | _, [] => .ok []
  | position, field :: fields =>
      match Text.decodeUtf8Prefix field with
      | (text, []) => return text :: (← decodeFields row file (position + 1) fields)
      | (_, undecoded@(_ :: _)) =>
          .error (.notText (row.place file) position (field.length - undecoded.length))

/-- The texts of a row of a file. -/
def decode (row : Row) (file : List UInt8) : Except Error (List (List Char)) :=
  row.decodeFields file 0 row.fields

/-- The texts of a row of a file that has to have a number of fields. -/
def decodeWidth (row : Row) (file : List UInt8) (expected : Nat) :
    Except Error (List (List Char)) :=
  if row.fields.length = expected then row.decode file
  else .error (.unequalWidths (row.place file) row.fields.length expected)

end Row

/-- The rows of a file, the header first; reading the header began with the mark. -/
def rows (file : List UInt8) : List Row :=
  match readRows (dropTextMark file) with
  | [] => []
  | header :: others => { header with start := file } :: others

end Csv

end ScriptedFeed
