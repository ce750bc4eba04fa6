import ScriptedFeed.Csv.Table
import ScriptedFeed.Json.Fault
import ScriptedFeed.Text.Quoted

/-!
# Why a file is not a script
-/

namespace ScriptedFeed

/-- Why a file does not yield a script. -/
inductive ScriptError where
  /-- The file looks like neither of the two formats. -/
  | unknownFormat
  /-- A table lacks a column; the names that it could go by are given. -/
  | missingColumn (names : List String)
  | negativeDelay (line : Nat) (value : Int)
  /-- A delay that is not an integer. -/
  | invalidDelay (line : Nat) (value : String)
  /-- A row that is neither a seed nor a scheduled line. -/
  | invalidKind (line : Nat) (value : String)
  | seedWithDelay (line : Nat) (value : UInt64)
  | seedAfterScheduled (line : Nat)
  | storage (fault : StorageFault)
  | json (error : Json.Error)
  | csv (error : Csv.Error)
deriving DecidableEq

namespace ScriptError

def listNames (names : List String) : String :=
  "[" ++ ", ".intercalate (names.map Text.quoted) ++ "]"

def message : ScriptError → String
  | unknownFormat => "Unknown script format"
  | missingColumn names => "Could not find column with names: " ++ listNames names
  | negativeDelay line value =>
      "Negative delay " ++ toString value ++ " on line " ++ toString line
  | invalidDelay line value =>
      "Invalid delay " ++ Text.quoted value ++ " on line " ++ toString line
  | invalidKind line value =>
      "Unknown line kind " ++ Text.quoted value ++ " on line " ++ toString line
  | seedWithDelay line value =>
      "Seed line " ++ toString line ++ " has delay " ++ toString value.toNat ++
        "ms; seed lines must have no delay"
  | seedAfterScheduled line => "Seed line " ++ toString line ++ " comes after a scheduled line"
  | storage fault => "IO error: " ++ fault.message
  | json error => "JSON parse error: " ++ error.message
  | csv error => "CSV parse error: " ++ error.message

/-- What lies behind an error, from the nearest cause to the last. -/
def causes : ScriptError → List String
  | storage fault => [fault.message]
  | json error => [error.message]
  | csv error => [error.message]
  | unknownFormat | missingColumn _ | negativeDelay _ _ | invalidDelay _ _ | invalidKind _ _
  | seedWithDelay _ _ | seedAfterScheduled _ => []

end ScriptError

/-- A delay that was written as a signed integer; the line number is for messages. -/
def checkDelay (line : Nat) (value : Int) : Except ScriptError UInt64 :=
  if value < 0 then .error (.negativeDelay line value) else .ok (UInt64.ofNat value.toNat)

end ScriptedFeed
