import ScriptedFeed.Number.Binary64
import ScriptedFeed.Number.Integer

/-!
# Reading floating-point numbers in decimal

A number is written as an optional sign, digits with at most one point among or beside them, and
an optional power of ten; infinity and not-a-number are written as words in any letter case. The
number read is the number of the format nearest to the exact decimal value, however long the text.
-/

namespace ScriptedFeed

/-- A decimal number: some digits, read as a whole number, times a power of ten. -/
structure Decimal where
  /-- The digits, read as one whole number. -/
  significand : Nat
  /-- The power of ten that the digits are multiplied by. -/
  exponent : Int
deriving DecidableEq, Repr

namespace Decimal

/--
The number of the format nearest to a decimal number, or nothing on overflow. Exponents far
outside the format's range are decided without computing their powers.
-/
def nearest? (decimal : Decimal) : Option Magnitude :=
  let scientific := decimal.exponent + (decimalDigits decimal.significand).length
  if decimal.significand = 0 ∨ scientific < -400 then some .zero
  else if 400 < scientific then none
  else
    match decimal.exponent with
    | .ofNat power => Magnitude.ofRatio? (decimal.significand * Nat.pow 10 power) 1
    | .negSucc power => Magnitude.ofRatio? decimal.significand (Nat.pow 10 (power + 1))

end Decimal

/-- Why a text is not a floating-point number. -/
inductive FloatFault where
  | empty
  | invalid
deriving DecidableEq, Repr

namespace FloatFault

def message : FloatFault → String
  | empty => "cannot parse float from empty string"
  | invalid => "invalid float literal"

end FloatFault

def digitsValue (digits : List Char) : Nat :=
  digits.foldl (fun number digit => number * 10 + (digit.toNat - '0'.toNat)) 0

/-- Reads the power of ten, with its letter; no text stands for the power zero. -/
def readExponent? (text : List Char) : Option Int :=
  match text with
  | [] => some 0
  | letter :: rest =>
      if letter = 'e' ∨ letter = 'E' then
        let (negative, digits) :=
          match rest with
          | '-' :: digits => (true, digits)
          | '+' :: digits => (false, digits)
          | digits => (false, digits)
        if digits.isEmpty || !digits.all Char.isDigit then none
        else some (if negative then -Int.ofNat (digitsValue digits) else digitsValue digits)
      else none

/-- Reads a decimal number without sign. -/
def readDecimal? (text : List Char) : Option Decimal :=
  let whole := text.takeWhile Char.isDigit
  let (fraction, rest) :=
    match text.dropWhile Char.isDigit with
    | '.' :: rest => (rest.takeWhile Char.isDigit, rest.dropWhile Char.isDigit)
    | rest => ([], rest)
  if whole.isEmpty && fraction.isEmpty then none
  else
    (readExponent? rest).map fun power =>
      ⟨digitsValue (whole ++ fraction), power - fraction.length⟩

/-- Reads a number without its sign. -/
def readUnsignedFloat? (negative : Bool) (text : List Char) : Option Binary64 :=
  let word := text.map Char.toLower
  if word = "nan".toList then some .nan
  else if word = "inf".toList ∨ word = "infinity".toList then some (.infinite negative)
  else
    (readDecimal? text).map fun decimal =>
      match decimal.nearest? with
      | some magnitude => .finite negative magnitude
      | none => .infinite negative

/-- Reads a floating-point number, correctly rounded. -/
def readFloat (text : List Char) : Except FloatFault Binary64 :=
  let number? :=
    match text with
    | '-' :: rest => readUnsignedFloat? true rest
    | '+' :: rest => readUnsignedFloat? false rest
    | rest => readUnsignedFloat? false rest
  match text, number? with
  | [], _ => .error .empty
  | _ :: _, none => .error .invalid
  | _ :: _, some number => .ok number

end ScriptedFeed
