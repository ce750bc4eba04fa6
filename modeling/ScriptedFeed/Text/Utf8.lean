/-!
# Text as bytes

Files hold bytes; a text is stored as the concatenation of the one to four bytes of each of its
characters. Decoding is written to be exact about failure: it returns the longest prefix that is
text together with the bytes it could not go on with, and tells apart bytes that no character
starts with from a character that the end of the input cut short.
-/

namespace ScriptedFeed

namespace Text

/-- The bytes a text is stored as. -/
def encodeUtf8 (text : List Char) : List UInt8 :=
  text.flatMap String.utf8EncodeChar

def bytesOf (text : String) : List UInt8 :=
  encodeUtf8 text.toList

/-- Whether a byte continues a character that takes several bytes. -/
def isContinuation (byte : UInt8) : Bool :=
  0x80 ≤ byte && byte ≤ 0xBF

/-- The number of continuation bytes that the first byte of a character asks for. -/
def continuationCount? (first : UInt8) : Option Nat :=
  if first ≤ 0x7F then some 0
  else if first < 0xC2 then none
  else if first ≤ 0xDF then some 1
  else if first ≤ 0xEF then some 2
  else if first ≤ 0xF4 then some 3
  else none

/--
Whether a second byte can follow the first one. Beyond being a continuation byte it must not make
the form longer than needed, name a surrogate, or pass the last code point.
-/
def isSecondByte (first second : UInt8) : Bool :=
  isContinuation second &&
    (first != 0xE0 || 0xA0 ≤ second) && (first != 0xED || second ≤ 0x9F) &&
    (first != 0xF0 || 0x90 ≤ second) && (first != 0xF4 || second ≤ 0x8F)

def continuationBits (byte : UInt8) : Nat :=
  byte.toNat % 64

/-- The character that starts the input, with the bytes after it. -/
def decodeChar? (bytes : List UInt8) : Option (Char × List UInt8) :=
  match bytes with
  | [] => none
  | first :: rest =>
      match continuationCount? first, rest with
      | some 0, _ => some (Char.ofNat first.toNat, rest)
      | some 1, second :: rest =>
          if isSecondByte first second then
            some (Char.ofNat (first.toNat % 32 * 64 + continuationBits second), rest)
          else none
      | some 2, second :: third :: rest =>
          if isSecondByte first second && isContinuation third then
            some (Char.ofNat ((first.toNat % 16 * 64 + continuationBits second) * 64 +
              continuationBits third), rest)
          else none
      | some 3, second :: third :: fourth :: rest =>
          if isSecondByte first second && isContinuation third && isContinuation fourth then
            some (Char.ofNat (((first.toNat % 8 * 64 + continuationBits second) * 64 +
              continuationBits third) * 64 + continuationBits fourth), rest)
          else none
      | _, _ => none

/-- Decodes at most so many characters; each step returns the bytes it could not go on with. -/
def decodeUpTo : Nat → List UInt8 → List Char × List UInt8
  | 0, bytes => ([], bytes)
  | limit + 1, bytes =>
      match decodeChar? bytes with
      | none => ([], bytes)
      | some (character, rest) =>
          let (text, undecoded) := decodeUpTo limit rest
          (character :: text, undecoded)

/-- The longest prefix of the input that is text, and the bytes from the first fault on. -/
def decodeUtf8Prefix (bytes : List UInt8) : List Char × List UInt8 :=
  decodeUpTo bytes.length bytes

/-- The text the bytes stand for, if they are text throughout. -/
def decodeUtf8? (bytes : List UInt8) : Option (List Char) :=
  match decodeUtf8Prefix bytes with
  | (text, []) => some text
  | (_, _ :: _) => none

/-- Whether the bytes begin a character and stop before its end. -/
def isCutCharacter (bytes : List UInt8) : Bool :=
  match bytes with
  | [] => false
  | first :: rest =>
      match continuationCount? first with
      | none => false
      | some count =>
          rest.length < count &&
            (match rest with
              | [] => true
              | second :: others => isSecondByte first second && others.all isContinuation)

end Text

end ScriptedFeed
