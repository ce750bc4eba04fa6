import ScriptedFeed.Notice
import ScriptedFeed.Script.Document
import ScriptedFeed.Script.Table

/-!
# Telling script files apart

A script file is a document or a table. A document starts with an opening brace. A table has a
comma in its first line that is not blank; only the first five hundred bytes of the file are looked
at for it, and a character that this cuts in two is left out. Everything else is refused.
-/

namespace ScriptedFeed

namespace Script

/-- What a script file looks like. -/
inductive Format where
  | document
  | table
  | unknown
deriving DecidableEq, Repr

def Format.name : Format → String
  | document => "Json"
  | table => "Csv"
  | unknown => "Unknown"

/-- Whether a byte is passed over at the start of a document. -/
def isLeadingBlank (byte : UInt8) : Bool :=
  byte = 0x20 || byte = 0x09 || byte = 0x0A || byte = 0x0C || byte = 0x0D

def looksLikeDocument (file : List UInt8) : Bool :=
  file.find? (fun byte => !isLeadingBlank byte) = some Json.openBrace

/-- The number of bytes that are looked at for the first line of a table. -/
def sampleSize : Nat := 500

/-- The text at the start of a file, unless the file does not start with text. -/
def sampleText? (file : List UInt8) : Option (List Char) :=
  let (text, undecoded) := Text.decodeUtf8Prefix (file.take sampleSize)
  if undecoded.isEmpty || Text.isCutCharacter undecoded then some text else none

def linesOf (text : List Char) : List (List Char) :=
  text.splitOn '\n'

/-- Whether a text has a comma in its first line that is not blank. -/
def hasHeaderComma (text : List Char) : Bool :=
  match (linesOf text).find? fun line => !line.all Text.isBlank with
  | some line => line.contains ','
  | none => false

def looksLikeTable (file : List UInt8) : Bool :=
  match sampleText? file with
  | some text => hasHeaderComma text
  | none => false

/-- What a file looks like. -/
def Format.detect (file : List UInt8) : Format :=
  if looksLikeDocument file then .document
  else if looksLikeTable file then .table
  else .unknown

/-- The part of the program that reports on loading. -/
def loadingSource : String := "tesser_terminal::input"

/-- Reports which format a file was found to have. -/
def loadingNotice (path : String) (format : Format) : Notice :=
  ⟨.debug, loadingSource, "Loading script " ++ path ++ " as " ++ format.name⟩

def loadDocument (tree : FileTree) (path : String) : Except ScriptError Script := do
  ofDocument (← (tree.contentOf path).mapError .storage)

/-- Loads a script from a table; a directory is found out only when it is read. -/
def loadTable (tree : FileTree) (path : String) : Except ScriptError Script := do
  let node ← (tree.openNode path).mapError .storage
  ofTable (← (FileTree.readNode node).mapError fun fault => .csv (.unreadable fault))

/-- Loads a script from a file of either format, with the notices that this gives. -/
def load (tree : FileTree) (path : String) : Except ScriptError Script × List Notice :=
  match tree.contentOf path with
  | .error fault => (.error (.storage fault), [])
  | .ok file =>
      let format := Format.detect file
      let script :=
        match format with
        | .document => loadDocument tree path
        | .table => loadTable tree path
        | .unknown => .error .unknownFormat
      (script, [loadingNotice path format])

end Script

end ScriptedFeed
