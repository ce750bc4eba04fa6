import ScriptedFeed.Display.Window
import ScriptedFeed.Playback.Session

/-!
# A session over time

A timeline is a session together with a clock, those who follow the session and a window that shows
it. The clock stands still but for the steps that move it, and lines are delivered in these steps
only, so that what a run of steps shows is determined by the steps alone.
-/

namespace ScriptedFeed

/-- A session, a clock, and all who look at the session. -/
structure Timeline where
  /-- The clock, in milliseconds. -/
  now : Nat
  session : Session
  /-- Whether the session has been given up by its owner, which stops it. -/
  isDropped : Bool
  /-- Whether there is a timer that can deliver lines. -/
  hasTimer : Bool
  /-- For each follower, in the order of subscription, the publication it has seen last. -/
  seen : List Nat
  window : Window

namespace Timeline

/-- What can be done to a session and by its followers. -/
inductive Step where
  | look
  | start
  | stop
  | drop
  | advance (milliseconds : Nat)
  | subscribe
  | observe (follower : Nat)
  /-- Waits for a follower's next publication, for a limited time. -/
  | wait (follower : Nat) (limit : Nat)
  | render
deriving DecidableEq, Repr

/-- What a follower learns about the publications of the session. -/
inductive News where
  | seen
  | unseen
  /-- There will be no further publication. -/
  | closed
deriving DecidableEq, Repr

/-- The answer to a step. -/
inductive Reply where
  | nothing
  | started
  | refused (error : PlaybackError)
  | subscribed (follower : Nat)
  | observed (news : News) (progress : Progress)
  | timeout
  | rendered (text : String)
deriving DecidableEq, Repr

/-- The start of the clock, before the session has started. -/
def ofSession (session : Session) (hasTimer : Bool) (window : Window) : Timeline :=
  ⟨0, session, false, hasTimer, [], window⟩

/-- The timeline after the clock has moved to a tick and what is due has been delivered. -/
def advanceTo (timeline : Timeline) (stamp : Nat → Instant) (tick : Nat) : Timeline :=
  { timeline with now := tick, session := timeline.session.advance stamp tick }

/-- Whether a follower has not seen the last publication. -/
def hasUnseen (timeline : Timeline) (follower : Nat) : Bool :=
  match timeline.seen[follower]? with
  | some version => timeline.session.channel.hasUnseen version
  | none => false

/-- The timeline after a follower has seen the last publication. -/
def markSeen (timeline : Timeline) (follower : Nat) : Timeline :=
  { timeline with seen := timeline.seen.set follower timeline.session.channel.version }

/-- What a follower finds when it looks for a publication. -/
def news (timeline : Timeline) (follower : Nat) : News :=
  if timeline.isDropped then .closed
  else if timeline.hasUnseen follower then .unseen
  else .seen

/-- The timeline after the clock has moved to a tick and one turn of deliveries has been made. -/
def turnAt (timeline : Timeline) (stamp : Nat → Instant) (tick : Nat) : Timeline :=
  { timeline with now := tick, session := timeline.session.advanceTurn stamp tick }

/--
The tick at which a delivery wakes up a waiting follower, if it comes before the limit does; at the
same tick the limit comes first.
-/
def wakeTick? (timeline : Timeline) (limit : Nat) : Option Nat :=
  (timeline.session.nextDue?.map (max timeline.now)).filter fun tick => tick < timeline.now + limit

/-- What is published at the moment, as it answers a follower that waits for something new. -/
def awaited (timeline : Timeline) : Reply :=
  .observed .unseen timeline.session.channel.value

/-- Whether a step still has an effect: without an owner, only what followers do has one. -/
def isPossible (timeline : Timeline) : Step → Bool
  | .advance _ | .observe _ | .wait _ _ => true
  | .look | .start | .stop | .drop | .subscribe | .render => !timeline.isDropped

/--
The timeline after a follower has waited for a limited time. A follower that is woken up looks after
the first turn of deliveries, before what else is due is delivered.
-/
def afterWait (timeline : Timeline) (stamp : Nat → Instant) (follower limit : Nat) : Timeline :=
  if timeline.hasUnseen follower then
    (timeline.markSeen follower).advanceTo stamp timeline.now
  else if timeline.isDropped then timeline
  else
    match timeline.wakeTick? limit with
    | some tick => ((timeline.turnAt stamp tick).markSeen follower).advanceTo stamp tick
    | none => timeline.advanceTo stamp (timeline.now + limit)

/-- What a follower learns that waits for a limited time. -/
def waitReply (timeline : Timeline) (stamp : Nat → Instant) (follower limit : Nat) : Reply :=
  if timeline.hasUnseen follower then timeline.awaited
  else if timeline.isDropped then .observed .closed timeline.session.channel.value
  else
    match timeline.wakeTick? limit with
    | some tick => (timeline.turnAt stamp tick).awaited
    | none => .timeout

/-- The tick of the clock at which a follower's waiting ends. -/
def waitTick (timeline : Timeline) (follower limit : Nat) : Nat :=
  if timeline.hasUnseen follower || timeline.isDropped then timeline.now
  else (timeline.wakeTick? limit).getD (timeline.now + limit)

/-- The timeline after a step that has an effect. -/
def take (timeline : Timeline) (stamp : Nat → Instant) : Step → Timeline
  | .look => timeline
  | .start =>
      { timeline with session := timeline.session.start stamp timeline.hasTimer timeline.now }
  | .stop => { timeline with session := timeline.session.stop }
  | .drop => { timeline with session := timeline.session.stop, isDropped := true }
  | .advance milliseconds => timeline.advanceTo stamp (timeline.now + milliseconds)
  | .subscribe => { timeline with seen := timeline.seen ++ [timeline.session.channel.version] }
  | .observe follower => timeline.markSeen follower
  | .wait follower limit => timeline.afterWait stamp follower limit
  | .render => { timeline with window := timeline.window.afterRender timeline.session.snapshot }

def step (timeline : Timeline) (stamp : Nat → Instant) (step : Step) : Timeline :=
  if timeline.isPossible step then timeline.take stamp step else timeline

/-- The answer to a step that has an effect. -/
def answer (timeline : Timeline) (stamp : Nat → Instant) : Step → Reply
  | .look | .stop | .drop | .advance _ => .nothing
  | .start =>
      match timeline.session.startError? timeline.hasTimer with
      | some error => .refused error
      | none => .started
  | .subscribe => .subscribed timeline.seen.length
  | .observe follower =>
      .observed (timeline.news follower) timeline.session.channel.value
  | .wait follower limit => timeline.waitReply stamp follower limit
  | .render => .rendered (timeline.window.render timeline.session.snapshot)

/-- The answer to a step; a window has nothing to show of a session that is gone. -/
def reply (timeline : Timeline) (stamp : Nat → Instant) (step : Step) : Reply :=
  if timeline.isPossible step then timeline.answer stamp step
  else if step = .render then .rendered ""
  else .nothing

/-- What is reported during a step. -/
def notices (timeline : Timeline) (stamp : Nat → Instant) : Step → List Notice
  | .look | .subscribe | .observe _ | .render => []
  | .start => timeline.session.startNotices stamp timeline.hasTimer
  | .stop | .drop => timeline.session.stopNotices
  | .advance milliseconds =>
      timeline.session.advanceNotices stamp (timeline.now + milliseconds)
  | .wait follower limit =>
      timeline.session.advanceNotices stamp (timeline.waitTick follower limit)

end Timeline

end ScriptedFeed
