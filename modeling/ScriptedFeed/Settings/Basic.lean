import ScriptedFeed.Json.Reader
import ScriptedFeed.Json.Writer
import ScriptedFeed.Playback.Config

/-!
# Settings

Settings are what a user has chosen to keep from one run to the next: the capacity of the feed, the
speed, and whether to use colour. They are stored as an object of which every member may be left
out.
-/

namespace ScriptedFeed

/-- What is kept from one run to the next. -/
structure Settings where
  capacity : UInt64
  speed : Binary64
  usesColor : Bool
deriving DecidableEq

namespace Settings

/-- The settings of someone who has chosen nothing. -/
def standard : Settings :=
  ⟨PlaybackConfig.defaultCapacity, .one, true⟩

def playbackConfig (settings : Settings) : PlaybackConfig :=
  (PlaybackConfig.mk settings.capacity settings.speed).clamped

/-- Settings being read: their members, as far as they are known. -/
structure Draft where
  capacity? : Option UInt64
  speed? : Option Binary64
  usesColor? : Option Bool

/-- How settings are read. -/
def shape : Json.RecordShape Draft Settings where
  name := "Settings"
  members := [
    { name := "capacity"
      aliases := []
      isOptional := true
      isGiven := fun draft => draft.capacity?.isSome
      readInto := fun draft bytes => do
        let (capacity, rest) ← Json.readUnsignedAs "usize" bytes
        .ok ({ draft with capacity? := some capacity }, rest) },
    { name := "speed"
      aliases := []
      isOptional := true
      isGiven := fun draft => draft.speed?.isSome
      readInto := fun draft bytes => do
        let (speed, rest) ← Json.readFloat bytes
        .ok ({ draft with speed? := some speed }, rest) },
    { name := "color"
      aliases := []
      isOptional := true
      isGiven := fun draft => draft.usesColor?.isSome
      readInto := fun draft bytes => do
        let (usesColor, rest) ← Json.readFlag bytes
        .ok ({ draft with usesColor? := some usesColor }, rest) }]
  start := ⟨none, none, none⟩
  finish := fun draft => .ok {
    capacity := draft.capacity?.getD standard.capacity
    speed := draft.speed?.getD standard.speed
    usesColor := draft.usesColor?.getD standard.usesColor }

def read : Json.Reader Settings :=
  shape.read

def writtenMembers (settings : Settings) : List (String × List Char) := [
  ("capacity", decimalDigits settings.capacity.toNat),
  ("speed", Json.floatText settings.speed),
  ("color", Json.writeFlag settings.usesColor)]

/-- Writes settings without blanks. -/
def write (settings : Settings) : List Char :=
  Json.writeObject settings.writtenMembers

/-- Writes settings as they are kept in a file. -/
def writeLines (settings : Settings) : List Char :=
  Json.writeObjectLines settings.writtenMembers

end Settings

end ScriptedFeed
