import ScriptedFeed.Playback.Speed

/-!
# How a script is played

A session is configured by the number of lines it keeps visible and the speed it plays at. The
configuration holds the speed that is asked for; a session plays the nearest speed it can.
-/

namespace ScriptedFeed

/-- Where a session stands in its life. -/
inductive PlaybackState where
  | idle
  | running
  | stopped
deriving DecidableEq, Repr

namespace PlaybackState

def name : PlaybackState → String
  | idle => "Idle"
  | running => "Running"
  | stopped => "Stopped"

/-- All states in the order in which they follow each other. -/
def all : List PlaybackState :=
  [idle, running, stopped]

end PlaybackState

structure PlaybackConfig where
  /-- The number of lines kept visible. -/
  capacity : UInt64
  /-- The speed asked for. -/
  speed : Binary64
deriving DecidableEq

namespace PlaybackConfig

/-- The number of lines kept visible unless another is asked for. -/
def defaultCapacity : UInt64 := 8

/-- The configuration unless another is asked for. -/
def standard : PlaybackConfig :=
  ⟨defaultCapacity, .one⟩

def withCapacity (config : PlaybackConfig) (capacity : UInt64) : PlaybackConfig :=
  { config with capacity }

def playedSpeed (config : PlaybackConfig) : Speed :=
  Speed.clamp config.speed

/-- The configuration with the nearest speed that can be played. -/
def clamped (config : PlaybackConfig) : PlaybackConfig :=
  { config with speed := config.playedSpeed.toNumber }

/-- The configuration with the nearest speed to another one that can be played. -/
def withSpeed (config : PlaybackConfig) (speed : Binary64) : PlaybackConfig :=
  { config with speed := (Speed.clamp speed).toNumber }

end PlaybackConfig

/-- Why playback cannot be set up or started. -/
inductive PlaybackError where
  /-- A feed that would show no line. -/
  | invalidCapacity (capacity : UInt64)
  /-- A feed too large to be set up. -/
  | capacityOverflow
  /-- There is nothing that could time the deliveries. -/
  | timerUnavailable
  | alreadyRunning
  | alreadyStopped
deriving DecidableEq, Repr

def PlaybackError.message : PlaybackError → String
  | invalidCapacity capacity =>
      "Feed capacity must be at least 1, got " ++ toString capacity.toNat
  | capacityOverflow => "capacity overflow"
  | timerUnavailable =>
      "Timer facility unavailable: there is no reactor running, must be called from the context " ++
        "of a Tokio 1.x runtime"
  | alreadyRunning => "Session is already running"
  | alreadyStopped => "Session has been stopped and cannot be restarted"

end ScriptedFeed
