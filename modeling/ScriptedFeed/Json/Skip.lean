import ScriptedFeed.Json.Number
import ScriptedFeed.Json.Text

/-!
# Passing over a value

Members that a record does not know are passed over, whatever their value. Their nesting has no
limit, so the arrays and objects that are open are kept on a list. Passing over checks the form of
a value but not what its texts and numbers stand for.
-/

namespace ScriptedFeed

namespace Json

/-- An array or object that is open. -/
inductive Frame where
  | array
  | object
deriving DecidableEq, Repr

namespace Frame

/-- The byte that closes the array or object. -/
def closer : Frame → UInt8
  | array => closeBracket
  | object => closeBrace

/-- The fault of a document that ends before the array or object does. -/
def unfinished : Frame → Fault
  | array => .unfinishedArray
  | object => .unfinishedObject

/-- The fault of a value that is followed neither by a comma nor by the closing byte. -/
def missingComma : Frame → Fault
  | array => .missingArrayComma
  | object => .missingObjectComma

end Frame

/-- Where passing over a value stands once a value inside it has ended. -/
inductive SkipState where
  /-- The whole value has ended. -/
  | finished (rest : List UInt8)
  /-- The innermost open array or object goes on. -/
  | more (frame : Frame) (outer : List Frame) (rest : List UInt8)

/-- Closes what ends after a value, from the innermost array or object outwards. -/
def closeFrames : List Frame → List UInt8 → Except Failure SkipState
  | [], bytes => .ok (.finished bytes)
  | frame :: outer, bytes =>
      match skipBlanks bytes with
      | [] => .error (.before frame.unfinished [])
      | byte :: rest =>
          if byte = Text.comma then .ok (.more frame outer rest)
          else if byte = frame.closer then closeFrames outer rest
          else .error (.inFirst frame.missingComma (byte :: rest))

/-- Enters an array or object, which may close at once. -/
def openFrame (frame : Frame) (outer : List Frame) (bytes : List UInt8) :
    Except Failure SkipState :=
  match skipBlanks bytes with
  | [] => .error (.before frame.unfinished [])
  | byte :: rest =>
      if byte = frame.closer then closeFrames outer rest
      else .ok (.more frame outer (byte :: rest))

/-- Passes over the name of a member and its colon. -/
def skipName (bytes : List UInt8) : Except Failure (List UInt8) :=
  match skipBlanks bytes with
  | [] => .error (.before .unfinishedObject [])
  | byte :: rest =>
      if byte = Text.quotationMark then do readColon (← skipText rest)
      else .error (.inFirst .keyIsNotText (byte :: rest))

/-- Passes over what stands before the next value of an array or object. -/
def Frame.skipToValue (frame : Frame) (bytes : List UInt8) : Except Failure (List UInt8) :=
  match frame with
  | array => .ok bytes
  | object => skipName bytes

/-- Passes over a value without parts, or enters an array or object. -/
def skipStart (frames : List Frame) (bytes : List UInt8) : Except Failure SkipState :=
  match skipBlanks bytes with
  | [] => .error (.before .unfinishedValue [])
  | byte :: rest =>
      match leadOf byte with
      | .null => do closeFrames frames (← readWord wordNull rest)
      | .yes => do closeFrames frames (← readWord wordTrue rest)
      | .no => do closeFrames frames (← readWord wordFalse rest)
      | .minus => do closeFrames frames (← skipNumber rest)
      | .digit => do closeFrames frames (← skipNumber (byte :: rest))
      | .text => do closeFrames frames (← skipText rest)
      | .array => openFrame .array frames rest
      | .object => openFrame .object frames rest
      | .nothing => .error (.inFirst .noValue (byte :: rest))

/--
Passes over values until all that is open has closed. The first list is as long as what is to be
read; an element of it is spent for each value but the first.
-/
def skipValues : List UInt8 → List Frame → List UInt8 → Except Failure (List UInt8)
  | [], frames, bytes => do
      match ← skipStart frames bytes with
      | .finished rest => .ok rest
      | .more _ _ rest => .error (.before .unfinishedValue rest)
  | _ :: fuel, frames, bytes => do
      match ← skipStart frames bytes with
      | .finished rest => .ok rest
      | .more frame outer rest => skipValues fuel (frame :: outer) (← frame.skipToValue rest)

def skipValue (bytes : List UInt8) : Except Failure (List UInt8) :=
  skipValues bytes [] bytes

end Json

end ScriptedFeed
