import ScriptedFeed.Feed.Buffer
import ScriptedFeed.Playback.Channel
import ScriptedFeed.Playback.Schedule

/-!
# Sessions

A session plays a script once. Starting it shows the seed lines and schedules the others; stopping
it gives up what has not been delivered, for good. Whoever follows the session learns its progress
through a channel, to which every change of the session is published.

The instant at which a line enters the feed is not the session's to decide: it is given as a
function of the number of lines that entered before.
-/

namespace ScriptedFeed

/-- How far a session has come. -/
structure Progress where
  state : PlaybackState
  /-- The number of scheduled lines that have been delivered. -/
  delivered : Nat
  /-- The number of scheduled lines that are still to come. -/
  pending : Nat
deriving DecidableEq, Repr

/-- Whether nothing is left to be delivered. -/
def Progress.isExhausted (progress : Progress) : Bool :=
  progress.pending = 0 && progress.state ≠ .idle

/-- One playback of a script. -/
structure Session where
  script : Script
  /-- The configuration, with the speed that is played. -/
  config : PlaybackConfig
  buffer : Buffer
  state : PlaybackState
  /-- The number of scheduled lines that have been delivered. -/
  delivered : Nat
  /-- What is scheduled, from the start to the end of playback. -/
  schedule? : Option Schedule
  channel : Channel Progress
deriving DecidableEq

namespace Session

/-- How far the session has come. -/
def progress (session : Session) : Progress :=
  { state := session.state
    delivered := session.delivered
    pending :=
      if session.state = .stopped then 0
      else session.script.scheduled.length - session.delivered }

/-- The lines that the feed shows, the oldest first. -/
def snapshot (session : Session) : List FeedLine :=
  session.buffer.lines

/-- The session after its progress has been published. -/
def publish (session : Session) : Session :=
  { session with channel := session.channel.publish session.progress }

/-- A session that has not started. -/
def create (script : Script) (config : PlaybackConfig) : Except PlaybackError Session := do
  let buffer ← Buffer.create config.capacity
  return {
    script
    config := config.clamped
    buffer
    state := .idle
    delivered := 0
    schedule? := none
    channel := .ofValue ⟨.idle, 0, script.scheduled.length⟩ }

/-- The part of the program that reports on sessions. -/
def source : String := "tesser_terminal::playback::session"

/-- The session after a line has been delivered; nothing is delivered unless it is running. -/
def deliver (stamp : Nat → Instant) (session : Session) (line : ScheduledLine) : Session :=
  if session.state = .running then
    let instant := stamp (session.script.seed.length + session.delivered)
    publish { session with
      buffer := session.buffer.append (.ofText line.text instant)
      delivered := session.delivered + 1 }
  else session

def deliverNotices (session : Session) (line : ScheduledLine) : List Notice :=
  if session.state = .running then
    ⟨.debug, source, "Feed line: " ++ line.text⟩ :: session.buffer.appendNotices
  else []

def deliverAllNotices (stamp : Nat → Instant) : Session → List ScheduledLine → List Notice
  | _, [] => []
  | session, line :: lines =>
      Schedule.deliveryNotice line :: session.deliverNotices line ++
        deliverAllNotices stamp (session.deliver stamp line) lines

/-- The lines that are due at a tick of the clock, in order. -/
def dueAt (session : Session) (now : Nat) : List ScheduledLine :=
  match session.schedule? with
  | some schedule => (schedule.dueAt now).map Delivery.line
  | none => []

/-- The session after everything due at a tick of the clock has been delivered. -/
def advance (session : Session) (stamp : Nat → Instant) (now : Nat) : Session :=
  (session.dueAt now).foldl (deliver stamp)
    { session with schedule? := session.schedule?.map fun schedule => schedule.advance now }

/-- The session after one turn of deliveries at a tick of the clock. -/
def advanceTurn (session : Session) (stamp : Nat → Instant) (now : Nat) : Session :=
  match session.schedule? with
  | some schedule =>
      ((schedule.dueInTurn now).map Delivery.line).foldl (deliver stamp)
        { session with schedule? := some (schedule.advanceTurn now) }
  | none => session

/-- What is reported when everything due at a tick of the clock is delivered. -/
def advanceNotices (session : Session) (stamp : Nat → Instant) (now : Nat) : List Notice :=
  deliverAllNotices stamp session (session.dueAt now)

/-- The session after the delivery that comes next, whenever it is due. -/
def deliverNext (session : Session) (stamp : Nat → Instant) : Session :=
  match session.schedule?.bind Schedule.next? with
  | some delivery =>
      deliver stamp { session with schedule? := session.schedule?.map Schedule.advanceOnce }
        delivery.line
  | none => session

/-- The tick of the clock at which the next line is delivered. -/
def nextDue? (session : Session) : Option Nat :=
  session.schedule?.bind Schedule.nextDue?

/-- The seed lines as they enter the feed. -/
def seedLines (session : Session) (stamp : Nat → Instant) : List FeedLine :=
  session.script.seed.zipIdx.map fun (text, index) => .ofText text (stamp index)

/-- Why the session cannot be started, if it cannot. -/
def startError? (session : Session) (hasTimer : Bool) : Option PlaybackError :=
  match session.state with
  | .running => some .alreadyRunning
  | .stopped => some .alreadyStopped
  | .idle => if hasTimer then none else some .timerUnavailable

/--
The session after an attempt to start it at a tick of the clock. Without a timer a session that has
not started yet is stopped; one that is running or stopped is left as it is.
-/
def start (session : Session) (stamp : Nat → Instant) (hasTimer : Bool) (now : Nat) : Session :=
  match session.state with
  | .running | .stopped => session
  | .idle =>
      if hasTimer then
        publish { session with
          buffer := (session.seedLines stamp).foldl Buffer.append session.buffer
          state := .running
          schedule? := some (.arm session.script.scheduled session.config.playedSpeed now) }
      else publish { session with state := .stopped }

/-- What is reported when lines are appended to a feed one after the other. -/
def appendAllNotices : Buffer → List FeedLine → List Notice
  | _, [] => []
  | buffer, line :: lines => buffer.appendNotices ++ appendAllNotices (buffer.append line) lines

/-- What is reported when the lines of a script are not in the order of their delays. -/
def orderNotices (session : Session) : List Notice :=
  if session.script.isMonotonic then []
  else
    [⟨.warn, source, "Script delays are not in order; lines will appear in delay order"⟩]

def startedNotice (session : Session) : Notice :=
  ⟨.info, source, "Playback started: " ++ toString session.script.seed.length ++
    " seed lines, " ++ toString session.script.scheduled.length ++ " scheduled, capacity " ++
    toString session.config.capacity.toNat⟩

/-- What is reported during an attempt to start the session. -/
def startNotices (session : Session) (stamp : Nat → Instant) (hasTimer : Bool) : List Notice :=
  match session.state with
  | .running | .stopped => []
  | .idle =>
      if hasTimer then
        session.orderNotices ++
          Schedule.armNotice session.script.scheduled session.config.playedSpeed ::
          appendAllNotices session.buffer (session.seedLines stamp) ++ [session.startedNotice]
      else session.orderNotices

/-- The session after it has been stopped; a second time changes nothing. -/
def stop (session : Session) : Session :=
  if session.state = .stopped then session
  else publish { session with state := .stopped, schedule? := none }

def stopNotices (session : Session) : List Notice :=
  if session.state = .stopped then []
  else
    (match session.schedule? with
      | some schedule => schedule.cancelNotices
      | none => []) ++
      [⟨.info, source, "Playback stopped"⟩]

end Session

end ScriptedFeed
