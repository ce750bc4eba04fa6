import ScriptedFeed.Json.Lexeme
import ScriptedFeed.Text.Utf8

/-!
# Texts of a document

A text stands between quotation marks. A backslash starts an escape: one letter for the common
ones, or four hexadecimal digits for a code unit, of which a pair of surrogates makes one
character. The bytes of the text with its escapes resolved have to be those of characters.
-/

namespace ScriptedFeed

namespace Json

/-- The value of a hexadecimal digit in either letter case. -/
def hexDigit? (byte : UInt8) : Option Nat :=
  if isDigit byte then some (digitOf byte)
  else if 0x61 ≤ byte ∧ byte ≤ 0x66 then some (byte.toNat - 0x61 + 10)
  else if 0x41 ≤ byte ∧ byte ≤ 0x46 then some (byte.toNat - 0x41 + 10)
  else none

/-- Reads the four hexadecimal digits of a code unit. -/
def readCodeUnit (bytes : List UInt8) : Except Failure (Nat × List UInt8) :=
  match bytes with
  | first :: second :: third :: fourth :: rest =>
      match hexDigit? first, hexDigit? second, hexDigit? third, hexDigit? fourth with
      | some first, some second, some third, some fourth =>
          .ok (((first * 16 + second) * 16 + third) * 16 + fourth, rest)
      | _, _, _, _ => .error (.before .malformedEscape rest)
  | _ => .error (.before .unfinishedText [])

/-- Whether a code unit is the first half of a pair. -/
def isLeadingSurrogate (unit : Nat) : Bool :=
  0xD800 ≤ unit && unit ≤ 0xDBFF

/-- Whether a code unit is the second half of a pair. -/
def isTrailingSurrogate (unit : Nat) : Bool :=
  0xDC00 ≤ unit && unit ≤ 0xDFFF

/-- The character that a pair of code units makes. -/
def pairedChar (leading trailing : Nat) : Char :=
  Char.ofNat ((leading - 0xD800) * 0x400 + (trailing - 0xDC00) + 0x10000)

/-- Reads a byte that the second half of a pair of escapes starts with. -/
def readPairByte (expected : UInt8) (bytes : List UInt8) : Except Failure (List UInt8) :=
  match bytes with
  | [] => .error (.before .unfinishedText [])
  | byte :: rest =>
      if byte = expected then .ok rest else .error (.before .unfinishedEscapePair rest)

def readHexEscape (bytes : List UInt8) : Except Failure (Char × List UInt8) := do
  let (leading, rest) ← readCodeUnit bytes
  if isTrailingSurrogate leading then throw (.before .loneSurrogate rest)
  if !isLeadingSurrogate leading then return (Char.ofNat leading, rest)
  let rest ← readPairByte backslash rest
  let rest ← readPairByte 0x75 rest
  let (trailing, rest) ← readCodeUnit rest
  if isTrailingSurrogate trailing then return (pairedChar leading trailing, rest)
  throw (.before .loneSurrogate rest)

/-- The character that a one-letter escape stands for. -/
def shortEscape? (letter : UInt8) : Option Char :=
  if letter = Text.quotationMark then some '"'
  else if letter = backslash then some '\\'
  else if letter = 0x2F then some '/'
  else if letter = 0x62 then some '\x08'
  else if letter = 0x66 then some '\x0c'
  else if letter = 0x6E then some '\n'
  else if letter = 0x72 then some '\r'
  else if letter = 0x74 then some '\t'
  else none

/-- Reads an escape, after its backslash. -/
def readEscape (bytes : List UInt8) : Except Failure (Char × List UInt8) :=
  match bytes with
  | [] => .error (.before .unfinishedText [])
  | letter :: rest =>
      match shortEscape? letter with
      | some character => .ok (character, rest)
      | none =>
          if letter = 0x75 then readHexEscape rest
          else .error (.before .malformedEscape rest)

/--
Reads the bytes of a text up to its closing mark, with those of the characters that escapes stand
for. The first list is as long as what is to be read; an element of it is spent for each byte or
escape.
-/
def readTextBytes : List UInt8 → List UInt8 → Except Failure (List UInt8 × List UInt8)
  | _, [] => .error (.before .unfinishedText [])
  | [], byte :: rest => .error (.before .unfinishedText (byte :: rest))
  | _ :: fuel, byte :: rest =>
      if byte = Text.quotationMark then .ok ([], rest)
      else if byte = backslash then do
        let (character, rest) ← readEscape rest
        let (others, rest) ← readTextBytes fuel rest
        .ok (String.utf8EncodeChar character ++ others, rest)
      else if byte < 0x20 then .error (.before .controlCharacter rest)
      else do
        let (others, rest) ← readTextBytes fuel rest
        .ok (byte :: others, rest)

/--
Reads a text after its opening mark. Only at the closing mark are its bytes decoded, so that every
other fault wins; a byte that no character starts with is then located as many bytes before the
closing mark as the bytes of the text have after it, escapes counting as what they stand for.
-/
def readText (bytes : List UInt8) : Except Failure (String × List UInt8) := do
  let (textBytes, rest) ← readTextBytes bytes bytes
  match Text.decodeUtf8Prefix textBytes with
  | (text, []) => .ok (String.ofList text, rest)
  | (_, undecoded) => .error (.earlier .invalidCodePoint undecoded.length rest)

/-- Passes over an escape, after its backslash; halves of pairs are not matched up. -/
def skipEscape (bytes : List UInt8) : Except Failure (List UInt8) :=
  match bytes with
  | [] => .error (.before .unfinishedText [])
  | letter :: rest =>
      if (shortEscape? letter).isSome then .ok rest
      else if letter = 0x75 then return (← readCodeUnit rest).2
      else .error (.before .malformedEscape rest)

/--
Passes over a text up to its closing mark. The first list is as long as what is to be read; an
element of it is spent for each byte or escape.
-/
def skipTextBytes : List UInt8 → List UInt8 → Except Failure (List UInt8)
  | _, [] => .error (.before .unfinishedText [])
  | [], byte :: rest => .error (.before .unfinishedText (byte :: rest))
  | _ :: fuel, byte :: rest =>
      if byte = Text.quotationMark then .ok rest
      else if byte = backslash then do skipTextBytes fuel (← skipEscape rest)
      else if byte < 0x20 then .error (.before .controlCharacter (byte :: rest))
      else skipTextBytes fuel rest

/-- Passes over a text after its opening mark. -/
def skipText (bytes : List UInt8) : Except Failure (List UInt8) :=
  skipTextBytes bytes bytes

end Json

end ScriptedFeed
