import ScriptedFeed.Json.Reader
import ScriptedFeed.Json.Writer
import ScriptedFeed.Script.Basic
import ScriptedFeed.Script.Error

/-!
# Scripts as documents

A script is stored as an object with an array of seed lines and an array of scheduled lines, each
with its text and its delay. Authored documents are read with signed delays, so that a negative one
is reported as such and by its position among the scheduled lines; they may also call the delay by
a shorter name. Documents written by the program itself are read in their own form only.
-/

namespace ScriptedFeed

namespace Script

/-- A scheduled line being read: its text and its delay, as far as they are known. -/
structure LineDraft (delay : Type) where
  text? : Option String
  delay? : Option delay

/-- How a scheduled line is read, given how its delay is. -/
def lineShape {delay : Type} (name : String) (delayNames : List String)
    (readDelay : Json.Reader delay) : Json.RecordShape (LineDraft delay) (String × delay) where
  name := name
  members := [
    { name := "text"
      aliases := []
      isOptional := false
      isGiven := fun draft => draft.text?.isSome
      readInto := fun draft bytes => do
        let (text, rest) ← Json.readString bytes
        .ok ({ draft with text? := some text }, rest) },
    { name := "delay_ms"
      aliases := delayNames
      isOptional := false
      isGiven := fun draft => draft.delay?.isSome
      readInto := fun draft bytes => do
        let (delay, rest) ← readDelay bytes
        .ok ({ draft with delay? := some delay }, rest) }]
  start := ⟨none, none⟩
  finish := fun draft =>
    match draft.text?, draft.delay? with
    | none, _ => .error "text"
    | some _, none => .error "delay_ms"
    | some text, some delay => .ok (text, delay)

/-- A script being read: its arrays, as far as they are known. -/
structure ScriptDraft (line : Type) where
  seed? : Option (List String)
  scheduled? : Option (List line)

/-- How a script is read, given how its scheduled lines are; an array left out is empty. -/
def scriptShape {line : Type} (name : String) (readLine : Json.Reader line) :
    Json.RecordShape (ScriptDraft line) (List String × List line) where
  name := name
  members := [
    { name := "seed"
      aliases := []
      isOptional := true
      isGiven := fun draft => draft.seed?.isSome
      readInto := fun draft bytes => do
        let (seed, rest) ← Json.readArray Json.readString bytes
        .ok ({ draft with seed? := some seed }, rest) },
    { name := "entries"
      aliases := []
      isOptional := true
      isGiven := fun draft => draft.scheduled?.isSome
      readInto := fun draft bytes => do
        let (scheduled, rest) ← Json.readArray readLine bytes
        .ok ({ draft with scheduled? := some scheduled }, rest) }]
  start := ⟨none, none⟩
  finish := fun draft => .ok (draft.seed?.getD [], draft.scheduled?.getD [])

def readAuthoredLine : Json.Reader (String × Int) :=
  (lineShape "RawEntry" ["delay"] Json.readSignedInteger).read

def readAuthored : Json.Reader (List String × List (String × Int)) :=
  (scriptShape "RawScript" readAuthoredLine).read

/-- Checks the delays of authored lines, given how many lines come before them. -/
def checkLines : Nat → List (String × Int) → Except ScriptError (List ScheduledLine)
  | _, [] => .ok []
  | before, (text, value) :: lines => do
      let delay ← checkDelay (before + 1) value
      return ⟨text, delay⟩ :: (← checkLines (before + 1) lines)

/-- The script that an authored document holds. -/
def ofDocument (document : List UInt8) : Except ScriptError Script := do
  let (seed, lines) ← (Json.readDocument readAuthored document).mapError .json
  return ⟨seed, ← checkLines 0 lines⟩

/-- Reads a scheduled line as the program writes it. -/
def readLine : Json.Reader ScheduledLine := fun bytes => do
  let ((text, delay), rest) ← (lineShape "ScriptEntry" [] (Json.readUnsignedAs "u64")).read bytes
  .ok (⟨text, delay⟩, rest)

/-- Reads a script as the program writes it. -/
def read : Json.Reader Script := fun bytes => do
  let ((seed, scheduled), rest) ← (scriptShape "Script" readLine).read bytes
  .ok (⟨seed, scheduled⟩, rest)

def writeLine (line : ScheduledLine) : List Char :=
  Json.writeObject [
    ("text", Json.writeText line.text),
    ("delay_ms", decimalDigits line.delay.toNat)]

def write (script : Script) : List Char :=
  Json.writeObject [
    ("seed", Json.writeArray (script.seed.map Json.writeText)),
    ("entries", Json.writeArray (script.scheduled.map writeLine))]

end Script

end ScriptedFeed
