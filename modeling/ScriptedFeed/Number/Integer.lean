/-!
# Integers in decimal

An integer is written as an optional sign and at least one digit. Reading one is checked against a
bound digit by digit, from the left, so that of several faults the leftmost is reported.
-/

namespace ScriptedFeed

/-- Why a text is not an integer in range. -/
inductive IntegerFault where
  | empty
  | invalidDigit
  | tooLarge
deriving DecidableEq, Repr

namespace IntegerFault

def message : IntegerFault → String
  | empty => "cannot parse integer from empty string"
  | invalidDigit => "invalid digit found in string"
  | tooLarge => "number too large to fit in target type"

end IntegerFault

def digitValue? (character : Char) : Option Nat :=
  if '0' ≤ character ∧ character ≤ '9' then some (character.toNat - '0'.toNat) else none

/-- Continues a number of at most the given bound with further digits. -/
def readDigitsFrom (bound : Nat) : Nat → List Char → Except IntegerFault Nat
  | number, [] => .ok number
  | number, character :: rest =>
      match digitValue? character with
      | none => .error .invalidDigit
      | some digit =>
          if bound < number * 10 + digit then .error .tooLarge
          else readDigitsFrom bound (number * 10 + digit) rest

/-- Reads a number of at least one digit that is at most the given bound. -/
def readDigits (bound : Nat) (text : List Char) : Except IntegerFault Nat :=
  match text with
  | [] => .error .invalidDigit
  | _ :: _ => readDigitsFrom bound 0 text

/-- The largest signed 64-bit integer. -/
def maxSigned : Nat := 0x7FFFFFFFFFFFFFFF

/-- The largest unsigned 64-bit integer. -/
def maxUnsigned : Nat := 0xFFFFFFFFFFFFFFFF

/-- Reads a signed 64-bit integer with an optional sign. -/
def readSigned (text : List Char) : Except IntegerFault Int :=
  match text with
  | [] => .error .empty
  | '+' :: digits => return Int.ofNat (← readDigits maxSigned digits)
  | '-' :: digits => return -Int.ofNat (← readDigits (maxSigned + 1) digits)
  | digits => return Int.ofNat (← readDigits maxSigned digits)

/-- Reads an unsigned 64-bit integer, before which only a plus sign may stand. -/
def readUnsigned (text : List Char) : Except IntegerFault UInt64 :=
  match text with
  | [] => .error .empty
  | '+' :: digits => return UInt64.ofNat (← readDigits maxUnsigned digits)
  | digits => return UInt64.ofNat (← readDigits maxUnsigned digits)

def decimalDigits (number : Nat) : List Char :=
  Nat.toDigits 10 number

/-- A natural number in decimal, filled up with zeros on the left to the given length. -/
def paddedDigits (length number : Nat) : List Char :=
  let digits := decimalDigits number
  List.replicate (length - digits.length) '0' ++ digits

end ScriptedFeed
