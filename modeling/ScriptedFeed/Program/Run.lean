import ScriptedFeed.Display.Watch
import ScriptedFeed.Notice.Log
import ScriptedFeed.Program.Preparation

/-!
# A run of the program

A run takes the arguments to what the program writes, how it exits and what it leaves in the file
tree. Playing is followed on a clock that jumps from one delivery to the next; the loop that shows
the feed gets ahead of the clock every time, so that it waits whenever the clock moves. A user may
interrupt the run after a number of lines, which ends it at the next moment of waiting.
-/

namespace ScriptedFeed

/-- Playing, as far as it went. -/
structure Performance where
  /-- The session at the end. -/
  session : Session
  sent : List Command
  notices : List Notice

namespace Performance

def interruptNotice : Notice :=
  ⟨.info, Preparation.source, "Interrupted"⟩

/-- The number of lines that commands end. -/
def lineCount (commands : List Command) : Nat :=
  (Command.spellAll commands).toList.count '\n'

/-- The performance with earlier output and notices put before its own. -/
def after (sent : List Command) (notices : List Notice) (performance : Performance) :
    Performance :=
  { performance with
    sent := sent ++ performance.sent
    notices := notices ++ performance.notices }

/--
Plays on from a watch. The user interrupts when the given number of lines has been written, if
there is one. The fuel bounds the number of moments at which something is delivered.
-/
def playOn (stamp : Nat → Instant) : Nat → Option Nat → Watch → Performance
  | 0, _, watch => ⟨watch.session, [], []⟩
  | fuel + 1, linesLeft?, watch =>
      let (watch, sent) := watch.round stamp
      let lines := lineCount sent
      if watch.phase = .left then ⟨watch.session, sent, []⟩
      else if linesLeft?.any fun linesLeft => linesLeft ≤ lines then
        ⟨watch.session, sent, [interruptNotice]⟩
      else
        match watch.session.nextDue? with
        | none => ⟨watch.session, sent, []⟩
        | some tick =>
            after sent (watch.session.advanceNotices stamp tick)
              (playOn stamp fuel (linesLeft?.map fun linesLeft => linesLeft - lines)
                { watch with session := watch.session.advance stamp tick })

/-- Plays a session that has not started, and stops it at the end. -/
def ofSession (session : Session) (window : Window) (staysOpen : Bool) (stamp : Nat → Instant)
    (interruptAfter? : Option Nat) : Performance :=
  let started := session.start stamp true 0
  let performance := playOn stamp (session.script.scheduled.length + 1) interruptAfter?
    (.start started window staysOpen)
  { performance with
    notices := session.startNotices stamp true ++ performance.notices ++
      performance.session.stopNotices
    session := performance.session.stop }

end Performance

/-- What a run of the program depends on besides its arguments. -/
structure Surroundings where
  tree : FileTree
  home : Settings.Home
  /-- The rules for notices that the user has chosen. -/
  noticeRules? : Option String
  /-- The instants at which lines enter the feed. -/
  stamp : Nat → Instant
  /-- The time that is written in the log. -/
  logTime : String
  /-- The number of lines after which the user interrupts. -/
  interruptAfter? : Option Nat

/-- What a run of the program leaves behind. -/
structure Ending where
  exitCode : Nat
  /-- What was written to standard output. -/
  written : String
  /-- The lines that were written to standard error. -/
  reported : List String
  tree : FileTree

namespace Ending

/-- Lines as they are written, each with its end. -/
def joinLines (lines : List String) : String :=
  String.join (lines.map fun line => line ++ "\n")

/-- The end of a run that plays, with output that is no terminal. -/
def ofOptions (surroundings : Surroundings) (options : Options) : Ending :=
  let preparation := Preparation.ofOptions options surroundings.tree surroundings.home
  let log := (NoticeFilter.ofChoice surroundings.noticeRules?).log surroundings.logTime
  match preparation.result with
  | .error failure =>
      { exitCode := failure.exitCode
        written := ""
        reported := log preparation.notices ++ failure.report
        tree := preparation.tree }
  | .ok session =>
      let performance := Performance.ofSession session (.create .plain true) options.staysOpen
        surroundings.stamp surroundings.interruptAfter?
      { exitCode := 0
        written := Command.spellAll performance.sent
        reported := log (preparation.notices ++ performance.notices)
        tree := preparation.tree }

/-- The exit code of a run whose arguments are refused. -/
def refusedCode : Nat := 2

/-- The end of a run. -/
def ofArguments (surroundings : Surroundings) (arguments : List String) : Ending :=
  match Request.ofArguments arguments with
  | .play options => ofOptions surroundings options
  | .showHelp => ⟨0, joinLines Usage.help, [], surroundings.tree⟩
  | .showVersion => ⟨0, joinLines Usage.version, [], surroundings.tree⟩
  | .refuse error => ⟨refusedCode, "", error.report, surroundings.tree⟩

end Ending

end ScriptedFeed
