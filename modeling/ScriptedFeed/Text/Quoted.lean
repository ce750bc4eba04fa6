import ScriptedFeed.Text.Extender
import ScriptedFeed.Text.Printable

/-!
# Quoted text

Messages show a text in quotation marks, written so that its ends and its invisible characters can
be seen: the usual escapes for the usual control characters, and the code point in hexadecimal for
every other character that has no visible form of its own.
-/

namespace ScriptedFeed

namespace Text

/-- The lowercase hexadecimal digits of a number, without leading zeros. -/
def hexadecimal (number : Nat) : List Char :=
  Nat.toDigits 16 number

/-- A character as it is written inside quotation marks. -/
def quotedChar (character : Char) : List Char :=
  match character with
  | '\x00' => ['\\', '0']
  | '\t' => ['\\', 't']
  | '\n' => ['\\', 'n']
  | '\r' => ['\\', 'r']
  | '"' => ['\\', '"']
  | '\\' => ['\\', '\\']
  | _ =>
      if isPrintable character && !isGraphemeExtender character then
        [character]
      else
        ['\\', 'u', '\x7b'] ++ hexadecimal character.toNat ++ ['\x7d']

def quoted (text : String) : String :=
  String.ofList ('"' :: text.toList.flatMap quotedChar ++ ['"'])

end Text

end ScriptedFeed
