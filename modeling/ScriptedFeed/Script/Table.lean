import ScriptedFeed.Script.Basic
import ScriptedFeed.Script.Error
import ScriptedFeed.Text.Blank
import ScriptedFeed.Text.Lowercase

/-!
# Scripts as tables

A table has one line of the script in each row: a column with the text, a column with the delay
and, if not all lines are scheduled ones, a column with the kind. Columns are found by their names
in the header, in any letter case and with blanks around them. The rows are checked from the top,
and the first fault ends the reading; line numbers count the header as the first line.
-/

namespace ScriptedFeed

namespace Script

def textColumnNames : List String := ["text", "line", "message"]

def delayColumnNames : List String := ["delay_ms", "delay", "ms", "at"]

def kindColumnNames : List String := ["kind", "type"]

/-- A cell in the form in which names and kinds are compared. -/
def normalized (cell : List Char) : List Char :=
  Text.lowercase (Text.trim cell)

/-- The first column that goes by one of the names. -/
def findColumn? (header : List (List Char)) (names : List String) : Option Nat :=
  header.findIdx? fun cell => names.any fun name => normalized cell = name.toList

/-- The first column that goes by one of the names, which the table has to have. -/
def findColumn (header : List (List Char)) (names : List String) : Except ScriptError Nat :=
  match findColumn? header names with
  | some column => .ok column
  | none => .error (.missingColumn names)

/-- Where the parts of a line stand in a row. -/
structure Columns where
  text : Nat
  delay : Nat
  kind? : Option Nat
deriving DecidableEq, Repr

/-- The columns that a header names. -/
def Columns.ofHeader (header : List (List Char)) : Except ScriptError Columns := do
  let text ← findColumn header textColumnNames
  let delay ← findColumn header delayColumnNames
  return ⟨text, delay, findColumn? header kindColumnNames⟩

/-- Reads the cell with a delay; an empty one stands for no delay. -/
def readDelay (line : Nat) (cell : List Char) : Except ScriptError UInt64 :=
  let text := Text.trim cell
  if text.isEmpty then .ok 0
  else
    match readSigned text with
    | .ok value => checkDelay line value
    | .error _ => .error (.invalidDelay line (String.ofList text))

/-- What a row stands for. -/
inductive RowLine where
  | seed (text : String)
  | scheduled (line : ScheduledLine)
deriving DecidableEq, Repr

/-- Reads a row, given whether a scheduled line came before it. -/
def readRow (columns : Columns) (line : Nat) (afterScheduled : Bool) (cells : List (List Char)) :
    Except ScriptError RowLine := do
  let text := String.ofList (cells.getD columns.text [])
  let kind := normalized ((columns.kind?.bind fun column => cells[column]?).getD [])
  let delay ← readDelay line (cells.getD columns.delay [])
  if kind = "seed".toList then
    if afterScheduled then throw (.seedAfterScheduled line)
    if delay ≠ 0 then throw (.seedWithDelay line delay)
    return .seed text
  else if kind = [] ∨ kind = "entry".toList then return .scheduled ⟨text, delay⟩
  else throw (.invalidKind line (String.ofList kind))

/-- Reads rows of a file into a script, given the line number of the first of them. -/
def readTableRows (file : List UInt8) (columns : Columns) (width : Nat) :
    Nat → Bool → List Csv.Row → Except ScriptError Script
  | _, _, [] => .ok .empty
  | line, afterScheduled, row :: rows => do
      let cells ← (row.decodeWidth file width).mapError .csv
      match ← readRow columns line afterScheduled cells with
      | .seed text =>
          let script ← readTableRows file columns width (line + 1) afterScheduled rows
          return { script with seed := text :: script.seed }
      | .scheduled scheduled =>
          let script ← readTableRows file columns width (line + 1) true rows
          return { script with scheduled := scheduled :: script.scheduled }

/-- The script that a table holds; a file without a header has no columns. -/
def ofTable (file : List UInt8) : Except ScriptError Script :=
  match Csv.rows file with
  | [] => .error (.missingColumn textColumnNames)
  | header :: rows => do
      let names ← (header.decode file).mapError .csv
      let columns ← Columns.ofHeader names
      readTableRows file columns header.fields.length 2 false rows

end Script

end ScriptedFeed
