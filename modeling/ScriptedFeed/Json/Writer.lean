import ScriptedFeed.Json.Fault

/-!
# Writing values

Documents are written without blanks, or with one member a line for files that people edit.
Texts keep every character but the quotation mark, the backslash and control characters.
-/

namespace ScriptedFeed

namespace Json

/-- The two hexadecimal digits of a control character. -/
def twoHexDigits (number : Nat) : List Char :=
  [Nat.digitChar (number / 16), Nat.digitChar (number % 16)]

/-- A character inside quotation marks. -/
def writeChar (character : Char) : List Char :=
  match character with
  | '"' => ['\\', '"']
  | '\\' => ['\\', '\\']
  | '\x08' => ['\\', 'b']
  | '\x0c' => ['\\', 'f']
  | '\n' => ['\\', 'n']
  | '\r' => ['\\', 'r']
  | '\t' => ['\\', 't']
  | _ =>
      if character.toNat < 0x20 then ['\\', 'u', '0', '0'] ++ twoHexDigits character.toNat
      else [character]

/-- A text in quotation marks. -/
def writeText (text : String) : List Char :=
  '"' :: text.toList.flatMap writeChar ++ ['"']

/-- A yes or no. -/
def writeFlag (flag : Bool) : List Char :=
  if flag then "true".toList else "false".toList

/-- Written values with commas between them. -/
def separated : List (List Char) → List Char
  | [] => []
  | [last] => last
  | value :: rest => value ++ ',' :: separated rest

def writeArray (values : List (List Char)) : List Char :=
  '[' :: separated values ++ [']']

def writeMember (member : String × List Char) : List Char :=
  writeText member.1 ++ ':' :: member.2

def writeObject (members : List (String × List Char)) : List Char :=
  '\x7b' :: separated (members.map writeMember) ++ ['\x7d']

def writeMemberLine (member : String × List Char) : List Char :=
  '\n' :: ' ' :: ' ' :: writeText member.1 ++ ':' :: ' ' :: member.2

/-- An object of members with written values, one member a line. -/
def writeObjectLines (members : List (String × List Char)) : List Char :=
  '\x7b' :: separated (members.map writeMemberLine) ++ ['\n', '\x7d']

end Json

end ScriptedFeed
