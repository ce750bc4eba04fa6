import ScriptedFeed.Json.Reader
import ScriptedFeed.Json.Writer
import ScriptedFeed.Playback.Config

/-!
# Playback states and configurations as documents
-/

namespace ScriptedFeed

namespace PlaybackState

def read : Json.Reader PlaybackState :=
  Json.readChoice (all.map fun state => (state.name, state))

def write (state : PlaybackState) : List Char :=
  Json.writeText state.name

end PlaybackState

namespace PlaybackConfig

/-- A configuration being read: its members, as far as they are known. -/
structure Draft where
  capacity? : Option UInt64
  speed? : Option Binary64

/-- How a configuration is read. -/
def shape : Json.RecordShape Draft PlaybackConfig where
  name := "PlaybackConfig"
  members := [
    { name := "capacity"
      aliases := []
      isOptional := false
      isGiven := fun draft => draft.capacity?.isSome
      readInto := fun draft bytes => do
        let (capacity, rest) ← Json.readUnsignedAs "usize" bytes
        .ok ({ draft with capacity? := some capacity }, rest) },
    { name := "speed"
      aliases := []
      isOptional := false
      isGiven := fun draft => draft.speed?.isSome
      readInto := fun draft bytes => do
        let (speed, rest) ← Json.readFloat bytes
        .ok ({ draft with speed? := some speed }, rest) }]
  start := ⟨none, none⟩
  finish := fun draft =>
    match draft.capacity?, draft.speed? with
    | none, _ => .error "capacity"
    | some _, none => .error "speed"
    | some capacity, some speed => .ok ⟨capacity, speed⟩

def read : Json.Reader PlaybackConfig :=
  shape.read

def write (config : PlaybackConfig) : List Char :=
  Json.writeObject [
    ("capacity", decimalDigits config.capacity.toNat),
    ("speed", Json.floatText config.speed)]

end PlaybackConfig

end ScriptedFeed
