import ScriptedFeed.Program.Run

/-!
# The program

The outer layer: it looks at the files that a run needs, prepares the run, carries out what the
preparation has changed, and then plays on a real clock. When to deliver, what to send and what to
report is decided by the library.
-/

namespace ScriptedFeed

namespace Terminal

/-- A steady clock and the instant at which it was started. -/
structure Clock where
  startSeconds : Int
  startNanosecond : Nat
  /-- The reading of the steady clock at the start, in nanoseconds. -/
  origin : Nat

/-- Starts a clock; the system tells the instant as the age of a new file. -/
def startClock : IO Clock := do
  let (_, file) ← IO.FS.createTempFile
  let modified := (← file.metadata).modified
  let origin ← IO.monoNanosNow
  IO.FS.removeFile file
  return ⟨modified.sec, modified.nsec.toNat, origin⟩

/-- The instant so many nanoseconds after the start of a clock. -/
def instantAfter (clock : Clock) (passed : Nat) : Instant :=
  let total := clock.startNanosecond + passed
  let seconds := clock.startSeconds + Int.ofNat (total / nanosecondsPerSecond)
  (Instant.ofCounts? seconds (total % nanosecondsPerSecond)).getD .epoch

/-- The instants from now on, a nanosecond apart, so that no two lines enter at the same one. -/
def stampNow (clock : Clock) : IO (Nat → Instant) := do
  let passed := (← IO.monoNanosNow) - clock.origin
  return fun index => instantAfter clock (passed + index)

/-- Writes to the standard output at once. -/
def send (commands : List Command) : IO Unit := do
  let output ← IO.getStdout
  output.putStr (Command.spellAll commands)
  output.flush

/-- Writes notices that the user wants to see to the standard error. -/
def report (filter : NoticeFilter) (clock : Clock) (notices : List Notice) : IO Unit := do
  let time := ((← stampNow clock) 0).timestamp
  (filter.log time notices).forM fun line => IO.eprintln line

/-- What a file of the system holds, if there is one that can be read. -/
def look (path : String) : IO (Option Node) := do
  if ← ((← IO.currentDir) / path).isDir then return some .directory
  try
    return some (.file (← IO.FS.readBinFile path).toList)
  catch _ =>
    return none

/-- Adds to a tree what lies on the way of some steps. -/
def observeSteps (tree : FileTree) (place : Place) : List PathStep → IO FileTree
  | [] => return tree
  | .here :: steps => observeSteps tree place steps
  | .up :: steps => observeSteps tree place.tail steps
  | .down name :: steps => do
      let next := name :: place
      match ← look ("/" ++ "/".intercalate next.reverse) with
      | none => return tree
      | some node => observeSteps (tree.put next node) next steps

/-- Adds to a tree what lies on the way of a path. -/
def observe (tree : FileTree) (path : String) : IO FileTree :=
  observeSteps tree (if Path.isAbsolute path then [] else tree.workingDirectory)
    (Path.steps path)

def workingDirectory : IO Place := do
  let names := (Path.steps (← IO.currentDir).toString).filterMap fun step =>
    match step with
    | .down name => some name
    | .here | .up => none
  return names.reverse

/-- The part of the system's file tree that matters to a run. -/
def observeAll (home : Settings.Home) (options : Options) : IO FileTree := do
  let start ← workingDirectory
  let tree ← observeSteps ⟨[], start⟩ [] (start.reverse.map PathStep.down)
  (home.settingsPath?.toList ++ options.script?.toList).foldlM observe tree

/-- Carries out what was put into a tree since an earlier state of it. -/
def carryOut (before after : FileTree) : IO Unit := do
  let fresh := after.nodes.take (after.nodes.length - before.nodes.length)
  fresh.reverse.forM fun (place, node) => do
    let path := "/" ++ "/".intercalate place.reverse
    match node with
    | .directory => IO.FS.createDirAll path
    | .file content => IO.FS.writeBinFile path ⟨content.toArray⟩

/-- The number of columns of the terminal, as far as the system tells it. -/
def terminalWidth? : IO (Option UInt16) := do
  return ((← IO.getEnv "COLUMNS").bind String.toNat?).map UInt16.ofNat

/-- Waits until a tick of a clock that was started at a reading of the steady clock. -/
def waitUntil (origin tick : Nat) : IO Unit := do
  let passed := (← IO.monoMsNow) - origin
  IO.sleep (UInt32.ofNat (min (tick - passed) (0xFFFFFFFF)))

/-- Plays until the loop leaves; a loop that stays open ends with the process. -/
partial def play (filter : NoticeFilter) (clock : Clock) (origin : Nat) (watch : Watch) :
    IO Session := do
  let width? ← terminalWidth?
  let stamp ← stampNow clock
  let (watch, sent) :=
    Watch.round { watch with window := watch.window.setWidth width? } stamp
  send sent
  if watch.phase = .left then return watch.session
  match watch.session.nextDue? with
  | none =>
      IO.sleep 1000
      play filter clock origin watch
  | some tick =>
      waitUntil origin tick
      if (← IO.monoMsNow) - origin < tick then play filter clock origin watch
      else
        let stamp ← stampNow clock
        report filter clock (watch.session.advanceNotices stamp tick)
        play filter clock origin { watch with session := watch.session.advance stamp tick }

def playOptions (options : Options) : IO UInt32 := do
  let clock ← startClock
  let home : Settings.Home := ⟨← IO.getEnv "HOME", ← IO.getEnv "XDG_CONFIG_HOME"⟩
  let filter := NoticeFilter.ofChoice (← IO.getEnv "RUST_LOG")
  let tree ← observeAll home options
  let settings := options.effective (Settings.load tree home)
  let preparation := Preparation.ofOptions options tree home
  carryOut tree preparation.tree
  report filter clock preparation.notices
  match preparation.result with
  | .error failure =>
      failure.report.forM fun line => IO.eprintln line
      return UInt32.ofNat failure.exitCode
  | .ok session =>
      let isTerminal ← (← IO.getStdout).isTty
      let mode := if isTerminal then WindowMode.live settings.usesColor else .plain
      let stamp ← stampNow clock
      report filter clock (session.startNotices stamp true)
      let started := session.start stamp true 0
      let origin ← IO.monoMsNow
      let session ← play filter clock origin
        (.start started (.create mode true) options.staysOpen)
      report filter clock session.stopNotices
      return 0

/-- Writes lines to the standard output. -/
def tell (lines : List String) : IO UInt32 := do
  lines.forM fun line => IO.println line
  return 0

def run (arguments : List String) : IO UInt32 := do
  match Request.ofArguments arguments with
  | .play options => playOptions options
  | .showHelp => tell Usage.help
  | .showVersion => tell Usage.version
  | .refuse error =>
      error.report.forM fun line => IO.eprintln line
      return UInt32.ofNat Ending.refusedCode

end Terminal

end ScriptedFeed

/-- Runs the program with the arguments of the command line. -/
def main (arguments : List String) : IO UInt32 :=
  ScriptedFeed.Terminal.run arguments
