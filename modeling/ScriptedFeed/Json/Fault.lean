import ScriptedFeed.Number.Shortest
import ScriptedFeed.Text.Location
import ScriptedFeed.Text.Quoted

/-!
# What can be wrong with a document

A document is read from left to right, straight into the value that is wanted, and the first fault
ends the reading. A fault is either one of form, such as an array that is not closed, or one of
content, such as a text where a number is wanted. Messages name a fault together with the line and
column that reading had reached.
-/

namespace ScriptedFeed

namespace Json

/-- The power of ten of a decimal's leading digit. -/
def leadingPower (decimal : Decimal) : Int :=
  decimal.exponent + (decimalDigits decimal.significand).length - 1

/-- A decimal with its point in place; a whole number keeps one zero after the point. -/
def positionalText (decimal : Decimal) : List Char :=
  let digits := decimalDigits decimal.significand
  let whole := digits.length + decimal.exponent
  if 0 ≤ decimal.exponent then
    digits ++ List.replicate decimal.exponent.toNat '0' ++ ['.', '0']
  else if 0 < whole then
    digits.take whole.toNat ++ '.' :: digits.drop whole.toNat
  else
    '0' :: '.' :: List.replicate whole.natAbs '0' ++ digits

/-- A decimal as one digit, the others after a point, and a signed power of ten. -/
def scientificText (decimal : Decimal) : List Char :=
  let digits := decimalDigits decimal.significand
  let power := leadingPower decimal
  digits.take 1 ++ (if digits.length = 1 then [] else '.' :: digits.drop 1) ++
    'e' :: (if power < 0 then '-' else '+') :: decimalDigits power.natAbs

/-- A magnitude in decimal: positional for leading powers of ten from minus five to fifteen. -/
def magnitudeText (magnitude : Magnitude) : List Char :=
  let decimal := magnitude.shortest
  if -5 ≤ leadingPower decimal ∧ leadingPower decimal ≤ 15 then positionalText decimal
  else scientificText decimal

/-- A floating-point number as documents hold it; there is no form for those that are not finite. -/
def floatText (number : Binary64) : List Char :=
  match number with
  | .finite negative magnitude =>
      if negative then '-' :: magnitudeText magnitude else magnitudeText magnitude
  | .infinite _ | .nan => "null".toList

def integerText (number : Int) : List Char :=
  if number < 0 then '-' :: decimalDigits number.natAbs else decimalDigits number.natAbs

/-- What a document holds at a place where something else is wanted. -/
inductive Found where
  | null
  | flag (value : Bool)
  | integer (value : Int)
  | float (value : Binary64)
  | text (value : String)
  | array
  | object
deriving DecidableEq

/-- What was found, in words. -/
def Found.describe : Found → String
  | null => "null"
  | flag true => "boolean `true`"
  | flag false => "boolean `false`"
  | integer value => "integer `" ++ String.ofList (integerText value) ++ "`"
  | float value => "floating point `" ++ String.ofList (floatText value) ++ "`"
  | text value => "string " ++ Text.quoted value
  | array => "sequence"
  | object => "map"

inductive Fault where
  | unfinishedValue
  | unfinishedText
  | unfinishedArray
  | unfinishedObject
  | missingColon
  | missingArrayComma
  | missingObjectComma
  | noValue
  | misspeltWord
  | keyIsNotText
  | trailingComma
  | trailingCharacters
  | malformedNumber
  | numberTooLarge
  | malformedEscape
  | unfinishedEscapePair
  | loneSurrogate
  | controlCharacter
  | invalidCodePoint
  /-- A value of another type than the wanted one. -/
  | wrongType (found : Found) (wanted : String)
  /-- A value of the wanted type that lies outside its range. -/
  | wrongValue (found : Found) (wanted : String)
  /-- An array with too few elements for a record with so many members. -/
  | wrongLength (length : Nat) (record : String) (members : Nat)
  | missingMember (name : String)
  | repeatedMember (name : String)
  /-- A word that is none of the choices. -/
  | unknownChoice (word : String) (choices : List String)
  /-- A text that is not in the form wanted of it. -/
  | malformedText (message : String)
deriving DecidableEq

/-- Several choices as a message lists them. -/
def describeChoices (choices : List String) : String :=
  ", ".intercalate (choices.map fun choice => "`" ++ choice ++ "`")

def Fault.message : Fault → String
  | unfinishedValue => "EOF while parsing a value"
  | unfinishedText => "EOF while parsing a string"
  | unfinishedArray => "EOF while parsing a list"
  | unfinishedObject => "EOF while parsing an object"
  | missingColon => "expected `:`"
  | missingArrayComma => "expected `,` or `]`"
  | missingObjectComma => "expected `,` or `\x7d`"
  | noValue => "expected value"
  | misspeltWord => "expected ident"
  | keyIsNotText => "key must be a string"
  | trailingComma => "trailing comma"
  | trailingCharacters => "trailing characters"
  | malformedNumber => "invalid number"
  | numberTooLarge => "number out of range"
  | malformedEscape => "invalid escape"
  | unfinishedEscapePair => "unexpected end of hex escape"
  | loneSurrogate => "lone leading surrogate in hex escape"
  | controlCharacter => "control character (\\u0000-\\u001F) found while parsing a string"
  | invalidCodePoint => "invalid unicode code point"
  | wrongType found wanted => "invalid type: " ++ found.describe ++ ", expected " ++ wanted
  | wrongValue found wanted => "invalid value: " ++ found.describe ++ ", expected " ++ wanted
  | wrongLength length record members =>
      "invalid length " ++ toString length ++ ", expected struct " ++ record ++ " with " ++
        toString members ++ (if members = 1 then " element" else " elements")
  | missingMember name => "missing field `" ++ name ++ "`"
  | repeatedMember name => "duplicate field `" ++ name ++ "`"
  | unknownChoice word choices =>
      "unknown variant `" ++ word ++ "`, expected one of " ++ describeChoices choices
  | malformedText message => message

/-- A fault and where it was found, given as the number of bytes of the document after it. -/
structure Failure where
  fault : Fault
  remaining : Nat
deriving DecidableEq

namespace Failure

/-- A fault found before the given rest of the document. -/
def before (fault : Fault) (rest : List UInt8) : Failure :=
  ⟨fault, rest.length⟩

/-- A fault in the first byte of the given rest of the document, if there is one. -/
def inFirst (fault : Fault) (rest : List UInt8) : Failure :=
  ⟨fault, rest.length - 1⟩

/-- A fault found so many bytes before the given rest of the document. -/
def earlier (fault : Fault) (distance : Nat) (rest : List UInt8) : Failure :=
  ⟨fault, rest.length + distance⟩

end Failure

/-- A fault and the line and column at which reading a document came upon it. -/
structure Error where
  fault : Fault
  line : Nat
  column : Nat
deriving DecidableEq

/-- The fault in words, with its place. -/
def Error.message (error : Error) : String :=
  error.fault.message ++ " at line " ++ toString error.line ++ " column " ++ toString error.column

/-- The failure to read a document, with its place in the document. -/
def Failure.locate (failure : Failure) (document : List UInt8) : Error :=
  let consumed := document.take (document.length - failure.remaining)
  ⟨failure.fault, Text.lineNumber consumed, Text.column consumed⟩

end Json

end ScriptedFeed
