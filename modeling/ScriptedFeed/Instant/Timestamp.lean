import ScriptedFeed.Instant.Basic
import ScriptedFeed.Text.Blank

/-!
# Instants as timestamps

A stored line names its instant by a timestamp: the date, the time of day and the offset from
universal time. Writing uses universal time and the shortest of no, three, six or nine fraction
digits that lose nothing. Reading is more liberal: fields may be shorter, blanks may stand around
them, the separators vary, and any offset of whole minutes is brought back to universal time.
-/

namespace ScriptedFeed

inductive TimestampFault where
  /-- A field has a value that it cannot have. -/
  | outOfRange
  /-- The fields name no instant that can be kept. -/
  | impossible
  /-- A character stands where it has no meaning. -/
  | invalid
  /-- The text ends before the timestamp does. -/
  | tooShort
  /-- The text goes on after the timestamp. -/
  | tooLong
deriving DecidableEq, Repr

namespace TimestampFault

def message : TimestampFault → String
  | outOfRange => "input is out of range"
  | impossible => "no possible date and time matching input"
  | invalid => "input contains invalid characters"
  | tooShort => "premature end of input"
  | tooLong => "trailing input"

end TimestampFault

namespace Instant

/-- The year of a timestamp; a sign tells years that do not have four digits apart. -/
def yearText (year : Int) : List Char :=
  if 0 ≤ year ∧ year ≤ 9999 then paddedDigits 4 year.toNat
  else if year < 0 then '-' :: paddedDigits 4 year.natAbs
  else '+' :: paddedDigits 4 year.natAbs

/-- The fraction of a second, with as few groups of three digits as it needs. -/
def fractionText (nanosecond : Nat) : List Char :=
  if nanosecond = 0 then []
  else if nanosecond % 1000000 = 0 then '.' :: paddedDigits 3 (nanosecond / 1000000)
  else if nanosecond % 1000 = 0 then '.' :: paddedDigits 6 (nanosecond / 1000)
  else '.' :: paddedDigits 9 nanosecond

/-- The timestamp of an instant, in universal time. -/
def timestamp (instant : Instant) : String :=
  String.ofList (yearText instant.date.year ++ '-' :: paddedDigits 2 instant.date.month ++
    '-' :: paddedDigits 2 instant.date.day ++ 'T' :: paddedDigits 2 instant.hour ++
    ':' :: paddedDigits 2 instant.minute ++ ':' :: paddedDigits 2 instant.second ++
    fractionText instant.fraction ++ ['Z'])

/-- Reads a run of one to so many digits; as all readers here it also returns what follows. -/
def readNumber (most : Nat) (text : List Char) : Except TimestampFault (Nat × List Char) :=
  match text with
  | [] => .error .tooShort
  | first :: _ =>
      let digits := (text.take most).takeWhile Char.isDigit
      if !first.isDigit then .error .invalid
      else
        match readDigitsFrom maxSigned 0 digits with
        | .ok number => .ok (number, text.drop digits.length)
        | .error _ => .error .outOfRange

/-- Reads a field of at most two digits, before which blanks may stand, with its bounds. -/
def readField (least greatest : Nat) (text : List Char) :
    Except TimestampFault (Nat × List Char) := do
  let (number, rest) ← readNumber 2 (Text.trimStart text)
  if least ≤ number ∧ number ≤ greatest then .ok (number, rest) else .error .outOfRange

/-- Reads a separator, before which blanks may stand. -/
def readSeparator (separator : Char) (text : List Char) :
    Except TimestampFault (Unit × List Char) :=
  match Text.trimStart text with
  | [] => .error .tooShort
  | character :: rest => if character = separator then .ok ((), rest) else .error .invalid

/-- Reads a year: at most four digits, or any number of them after a sign. -/
def readYear (text : List Char) : Except TimestampFault (Int × List Char) := do
  let (year, rest) ←
    match Text.trimStart text with
    | '-' :: rest => do
        let (number, rest) ← readNumber rest.length rest
        pure (-Int.ofNat number, rest)
    | '+' :: rest => do
        let (number, rest) ← readNumber rest.length rest
        pure (Int.ofNat number, rest)
    | rest => do
        let (number, rest) ← readNumber 4 rest
        pure (Int.ofNat number, rest)
  if -0x80000000 ≤ year ∧ year < 0x80000000 then .ok (year, rest) else .error .outOfRange

/-- Reads the fraction of a second, if one follows; digits after the ninth are dropped. -/
def readFraction (text : List Char) : Except TimestampFault (Nat × List Char) :=
  match text with
  | '.' :: rest => do
      let (number, after) ← readNumber 9 rest
      let length := rest.length - after.length
      .ok (number * Nat.pow 10 (9 - length), after.dropWhile Char.isDigit)
  | _ => .ok (0, text)

/--
Reads the two digits of an offset's hours. What is left is too short for them only if it has fewer
than two bytes: a single character of several bytes is an invalid one.
-/
def readOffsetHours (text : List Char) : Except TimestampFault (Nat × List Char) :=
  match text with
  | tens :: ones :: rest =>
      match digitValue? tens, digitValue? ones with
      | some tens, some ones => .ok (tens * 10 + ones, rest)
      | _, _ => .error .invalid
  | [character] => .error (if character.utf8Size < 2 then .tooShort else .invalid)
  | [] => .error .tooShort

/-- Reads the two digits of an offset's minutes. -/
def readOffsetMinutes (text : List Char) : Except TimestampFault (Nat × List Char) := do
  let (minutes, rest) ← readOffsetHours text
  if minutes < 60 then .ok (minutes, rest) else .error .outOfRange

/-- Whether a character may part the hours and the minutes of an offset. -/
def partsOffset (character : Char) : Bool :=
  character = ':' || Text.isBlank character

/-- Reads the hours and minutes of an offset, in seconds. -/
def readOffsetAmount (text : List Char) : Except TimestampFault (Int × List Char) := do
  let (hours, rest) ← readOffsetHours text
  let (minutes, rest) ← readOffsetMinutes (rest.dropWhile partsOffset)
  .ok (Int.ofNat (hours * 3600 + minutes * 60), rest)

/-- Reads the offset from universal time, in seconds. -/
def readOffset (text : List Char) : Except TimestampFault (Int × List Char) :=
  if (text.take 3).map Char.toUpper = "UTC".toList then .ok (0, text.drop 3)
  else
    match text with
    | [] => .error .tooShort
    | 'Z' :: rest | 'z' :: rest => .ok (0, rest)
    | '+' :: rest => readOffsetAmount rest
    | '-' :: rest | '\u2212' :: rest => do
        let (amount, rest) ← readOffsetAmount rest
        .ok (-amount, rest)
    | _ => .error .invalid

/-- Reads the letter or blank between the date and the time of day. -/
def readDivider (text : List Char) : Except TimestampFault (Unit × List Char) :=
  match text with
  | [] => .error .tooShort
  | character :: rest =>
      if character = 'T' ∨ character = 't' ∨ character = ' ' then .ok ((), rest)
      else .error .invalid

/-- The instant that the fields of a timestamp name. -/
def ofFields (date : Date) (secondOfDay : Nat) (nanosecond : Nat) (offset : Int) :
    Except TimestampFault Instant :=
  if !date.isValid then .error .outOfRange
  else if secondsPerDay ≤ offset.natAbs then .error .outOfRange
  else
    match ofCounts? (date.toDays * secondsPerDay + secondOfDay - offset) nanosecond with
    | some instant => .ok instant
    | none => .error .impossible

def ofTimestamp (text : List Char) : Except TimestampFault Instant := do
  let (year, rest) ← readYear text
  let (_, rest) ← readSeparator '-' rest
  let (month, rest) ← readField 1 12 rest
  let (_, rest) ← readSeparator '-' rest
  let (day, rest) ← readField 1 31 rest
  let (_, rest) ← readDivider rest
  let (hour, rest) ← readField 0 23 rest
  let (_, rest) ← readSeparator ':' rest
  let (minute, rest) ← readField 0 59 rest
  let (_, rest) ← readSeparator ':' rest
  let (second, rest) ← readField 0 60 rest
  let (fraction, rest) ← readFraction rest
  let (offset, rest) ← readOffset (Text.trimStart rest)
  if !(Text.trimStart rest).isEmpty then throw .tooLong
  let isLeap := second = 60
  let secondOfDay := hour * 3600 + minute * 60 + if isLeap then 59 else second
  let nanosecond := if isLeap then fraction + nanosecondsPerSecond else fraction
  ofFields ⟨year, month, day⟩ secondOfDay nanosecond offset

end Instant

end ScriptedFeed
