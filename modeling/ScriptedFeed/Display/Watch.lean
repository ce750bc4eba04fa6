import ScriptedFeed.Display.Window
import ScriptedFeed.Playback.Session

/-!
# Watching a session

A watch is a loop that keeps a window up to date with a session. It reads the progress that was
published last, shows the feed, and leaves if the progress said that nothing is left to come;
otherwise it waits for a publication that it has not read. Lines are delivered between any two
steps of the loop, also between reading the progress and showing the feed; the feed that is shown
can then only be newer than the progress, and the publication it belongs to is still unread, so
that the loop comes round again.
-/

namespace ScriptedFeed

/-- What a watch does next. -/
inductive WatchPhase where
  | reading
  /-- Shows the feed, having read a progress. -/
  | showing (progress : Progress)
  /-- Decides whether to leave by the progress that it has read. -/
  | deciding (progress : Progress)
  | waiting
  | left
deriving DecidableEq, Repr

/-- A session and the loop that keeps a window up to date with it. -/
structure Watch where
  session : Session
  window : Window
  /-- Whether the loop goes on when nothing is left to come. -/
  staysOpen : Bool
  /-- The publication that was read last. -/
  seen : Nat
  phase : WatchPhase

namespace Watch

def start (session : Session) (window : Window) (staysOpen : Bool) : Watch :=
  ⟨session, window, staysOpen, session.channel.version, .reading⟩

/-- The phase after a progress has been read and the feed has been shown. -/
def phaseAfter (watch : Watch) (progress : Progress) : WatchPhase :=
  if progress.isExhausted && !watch.staysOpen then .left else .waiting

/-- The watch after the next step of the loop. -/
def proceed (watch : Watch) : Watch :=
  match watch.phase with
  | .reading =>
      { watch with
        seen := watch.session.channel.version
        phase := .showing watch.session.channel.value }
  | .showing progress =>
      { watch with
        window := watch.window.afterRender watch.session.snapshot
        phase := .deciding progress }
  | .deciding progress => { watch with phase := watch.phaseAfter progress }
  | .waiting =>
      if watch.session.channel.hasUnseen watch.seen then { watch with phase := .reading }
      else watch
  | .left => watch

/-- What the next step of the loop sends. -/
def sent (watch : Watch) : List Command :=
  match watch.phase with
  | .showing _ => watch.window.renderCommands watch.session.snapshot
  | .reading | .deciding _ | .waiting | .left => []

inductive Step where
  /-- The loop takes its next step. -/
  | proceed
  /-- The next line of the session is delivered. -/
  | deliver
deriving DecidableEq, Repr

def step (watch : Watch) (stamp : Nat → Instant) : Step → Watch
  | .proceed => watch.proceed
  | .deliver => { watch with session := watch.session.deliverNext stamp }

def sentIn (watch : Watch) : Step → List Command
  | .proceed => watch.sent
  | .deliver => []

/-- The watch after some steps, and what these send. -/
def run (stamp : Nat → Instant) : Watch → List Step → Watch × List Command
  | watch, [] => (watch, [])
  | watch, step :: steps =>
      let (after, later) := run stamp (watch.step stamp step) steps
      (after, watch.sentIn step ++ later)

/-- The steps that bring the loop from one moment of waiting to the next. -/
def roundSteps : List Step :=
  [.proceed, .proceed, .proceed, .proceed]

/-- The watch when the loop waits or has left, if nothing is delivered meanwhile. -/
def round (watch : Watch) (stamp : Nat → Instant) : Watch × List Command :=
  run stamp watch roundSteps

end Watch

end ScriptedFeed
