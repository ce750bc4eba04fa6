import ScriptedFeed.Json.Lexeme

/-!
# Numbers of a document

A number without point and power of ten is an integer as far as 64 bits reach; every other one is
a floating-point number. Digits are gathered into an integer of 64 bits for as long as that holds
them, and the digits after that only count towards the power of ten. The result is that integer
times or over the power of ten, each rounded to the floating-point format on its own.
-/

namespace ScriptedFeed

namespace Json

/-- A number as it is read, before the wanted type is taken into account. -/
inductive Number where
  | integer (value : Int)
  | float (value : Binary64)
deriving DecidableEq

/-- The number, as what was found where something else is wanted. -/
def Number.found : Number → Found
  | integer value => .integer value
  | float value => .float value

/-- The digits gathered so far and the power of ten that they are to be multiplied by. -/
structure Gathered where
  significand : Nat
  exponent : Int
deriving DecidableEq, Repr

/-- The largest power of ten that one multiplication or division applies. -/
def largestPower : Nat := 308

/-- A magnitude over a power of ten that one division applies. -/
def overPower? (magnitude : Magnitude) (power : Nat) : Option Magnitude := do
  magnitude.div? (← Magnitude.ofNat? (Nat.pow 10 power))

/-- A magnitude over so many times the largest power of ten and then over a smaller one. -/
def scaleDown? : Nat → Nat → Magnitude → Option Magnitude
  | 0, power, magnitude => overPower? magnitude power
  | steps + 1, power, magnitude =>
      if magnitude.units = 0 then some magnitude
      else do scaleDown? steps power (← overPower? magnitude largestPower)

/-- The magnitude that gathered digits stand for, unless it is too large. -/
def Gathered.magnitude? (gathered : Gathered) : Option Magnitude := do
  let significand ← Magnitude.ofNat? gathered.significand
  match gathered.exponent with
  | .ofNat power =>
      if power ≤ largestPower then significand.mul? (← Magnitude.ofNat? (Nat.pow 10 power))
      else if significand.units = 0 then some significand
      else none
  | .negSucc power => scaleDown? (power / largestPower) (power % largestPower + 1) significand

/-- The number with a magnitude; a number that is too large is a fault. -/
def finishMagnitude (negative : Bool) (rest : List UInt8) :
    Option Magnitude → Except Failure (Number × List UInt8)
  | some magnitude => .ok (.float (.finite negative magnitude), rest)
  | none => .error (.before .numberTooLarge rest)

/-- The number that gathered digits stand for. -/
def finishFloat (negative : Bool) (gathered : Gathered) (rest : List UInt8) :
    Except Failure (Number × List UInt8) :=
  finishMagnitude negative rest gathered.magnitude?

/-- The largest power of ten that is read as written. -/
def exponentBound : Nat := 0x7FFFFFFF

/-- The digits of a power of ten, as far as they stay within its bound. -/
inductive ExponentDigits where
  | inRange (exponent : Nat) (rest : List UInt8)
  | beyond (rest : List UInt8)
deriving DecidableEq, Repr

/-- Reads further digits of a power of ten. -/
def readExponentDigits : Nat → List UInt8 → ExponentDigits
  | exponent, [] => .inRange exponent []
  | exponent, byte :: rest =>
      if isDigit byte then
        if exponentBound < exponent * 10 + digitOf byte then .beyond rest
        else readExponentDigits (exponent * 10 + digitOf byte) rest
      else .inRange exponent (byte :: rest)

/-- Reads the power of ten, after its letter. -/
def readExponent (negative : Bool) (gathered : Gathered) (bytes : List UInt8) :
    Except Failure (Number × List UInt8) :=
  let (shrinks, bytes) :=
    match bytes with
    | byte :: rest =>
        if byte = plus then (false, rest)
        else if byte = minus then (true, rest)
        else (false, bytes)
    | [] => (false, bytes)
  match bytes with
  | [] => .error (.before .unfinishedValue [])
  | byte :: rest =>
      if !isDigit byte then .error (.before .malformedNumber rest)
      else
        match readExponentDigits (digitOf byte) rest with
        | .inRange exponent rest =>
            let change : Int := if shrinks then -exponent else exponent
            finishFloat negative ⟨gathered.significand, gathered.exponent + change⟩ rest
        | .beyond rest =>
            if gathered.significand ≠ 0 ∧ !shrinks then .error (.before .numberTooLarge rest)
            else .ok (.float (.finite negative .zero), rest.dropWhile isDigit)

/-- Reads the power of ten if its letter follows, and finishes the number. -/
def readTail (negative : Bool) (gathered : Gathered) (bytes : List UInt8) :
    Except Failure (Number × List UInt8) :=
  match bytes with
  | [] => finishFloat negative gathered []
  | byte :: rest =>
      if isExponentMark byte then readExponent negative gathered rest
      else finishFloat negative gathered (byte :: rest)

/-- Gathers digits after the point; once the integer is full, further digits are dropped. -/
def gatherFraction : Gathered → List UInt8 → Gathered × List UInt8
  | gathered, [] => (gathered, [])
  | gathered, byte :: rest =>
      if isDigit byte then
        let significand := gathered.significand * 10 + digitOf byte
        if maxUnsigned < significand then (gathered, rest.dropWhile isDigit)
        else gatherFraction ⟨significand, gathered.exponent - 1⟩ rest
      else (gathered, byte :: rest)

/-- Reads the digits after the point, of which there has to be one, and what follows them. -/
def readFraction (negative : Bool) (gathered : Gathered) (bytes : List UInt8) :
    Except Failure (Number × List UInt8) :=
  match bytes with
  | [] => .error (.before .unfinishedValue [])
  | byte :: _ =>
      if isDigit byte then
        let (gathered, rest) := gatherFraction gathered bytes
        readTail negative gathered rest
      else .error (.inFirst .malformedNumber bytes)

/-- Reads what follows the digits before the point, as a floating-point number. -/
def readFractionOrTail (negative : Bool) (gathered : Gathered) (bytes : List UInt8) :
    Except Failure (Number × List UInt8) :=
  match bytes with
  | [] => finishFloat negative gathered []
  | byte :: rest =>
      if byte = point then readFraction negative gathered rest
      else readTail negative gathered bytes

/-- The number without point and power of ten: an integer if 64 bits hold it and its sign. -/
def wholeNumber (negative : Bool) (significand : Nat) (rest : List UInt8) :
    Except Failure (Number × List UInt8) :=
  if !negative then .ok (.integer significand, rest)
  else if 0 < significand ∧ significand ≤ maxSigned + 1 then .ok (.integer (-significand), rest)
  else finishFloat true ⟨significand, 0⟩ rest

/-- Reads further digits before the point and all that follows them. -/
def readWhole (negative : Bool) : Nat → List UInt8 → Except Failure (Number × List UInt8)
  | significand, [] => wholeNumber negative significand []
  | significand, byte :: rest =>
      if isDigit byte then
        if maxUnsigned < significand * 10 + digitOf byte then
          let dropped := (byte :: rest).takeWhile isDigit
          readFractionOrTail negative ⟨significand, dropped.length⟩ (rest.dropWhile isDigit)
        else readWhole negative (significand * 10 + digitOf byte) rest
      else if byte = point ∨ isExponentMark byte then
        readFractionOrTail negative ⟨significand, 0⟩ (byte :: rest)
      else wholeNumber negative significand (byte :: rest)

/-- Reads a number after its sign; a leading zero stands alone. -/
def readNumber (negative : Bool) (bytes : List UInt8) : Except Failure (Number × List UInt8) :=
  match bytes with
  | [] => .error (.before .unfinishedValue [])
  | first :: rest =>
      if !isDigit first then .error (.before .malformedNumber rest)
      else
        match rest with
        | second :: _ =>
            if digitOf first = 0 ∧ isDigit second then .error (.inFirst .malformedNumber rest)
            else readWhole negative (digitOf first) rest
        | [] => readWhole negative (digitOf first) rest

/-- Passes over the power of ten, after its letter. -/
def skipExponent (bytes : List UInt8) : Except Failure (List UInt8) :=
  let bytes :=
    match bytes with
    | byte :: rest => if byte = plus ∨ byte = minus then rest else bytes
    | [] => bytes
  match bytes with
  | [] => .error (.before .malformedNumber [])
  | byte :: rest =>
      if isDigit byte then .ok (rest.dropWhile isDigit)
      else .error (.before .malformedNumber rest)

/-- Passes over the power of ten if its letter follows. -/
def skipTail (bytes : List UInt8) : Except Failure (List UInt8) :=
  match bytes with
  | [] => .ok []
  | byte :: rest => if isExponentMark byte then skipExponent rest else .ok bytes

/-- Passes over what follows the digits before the point. -/
def skipFractionOrTail (bytes : List UInt8) : Except Failure (List UInt8) :=
  match bytes with
  | [] => .ok []
  | byte :: rest =>
      if byte = point then
        match rest with
        | [] => .error (.inFirst .malformedNumber [])
        | next :: _ =>
            if isDigit next then skipTail (rest.dropWhile isDigit)
            else .error (.inFirst .malformedNumber rest)
      else skipTail bytes

/-- Passes over a number after its sign. -/
def skipNumber (bytes : List UInt8) : Except Failure (List UInt8) :=
  match bytes with
  | [] => .error (.before .malformedNumber [])
  | first :: rest =>
      if !isDigit first then .error (.before .malformedNumber rest)
      else if digitOf first ≠ 0 then skipFractionOrTail (rest.dropWhile isDigit)
      else
        match rest with
        | second :: _ =>
            if isDigit second then .error (.inFirst .malformedNumber rest)
            else skipFractionOrTail rest
        | [] => .ok []

end Json

end ScriptedFeed
