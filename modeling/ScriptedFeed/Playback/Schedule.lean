import ScriptedFeed.Notice
import ScriptedFeed.Playback.Config
import ScriptedFeed.Script.Basic

/-!
# Schedules

A schedule delivers the lines of a script in the order of their delays, each once its scaled delay
is over. The lines wait in one queue, of which only the first is watched: time never overtakes a
line that waits behind another one, because the queue is sorted by delay. A schedule can be
cancelled, which gives up all lines that have not been delivered.
-/

namespace ScriptedFeed

/-- A line and the tick of the clock at which it is delivered. -/
structure Delivery where
  due : Nat
  line : ScheduledLine
deriving DecidableEq, Repr

/-- Deliveries that are under way. -/
structure Schedule where
  /-- The lines that have not been delivered, in the order of delivery. -/
  queue : List Delivery
  isCancelled : Bool
  /-- Whether the queue was found to be empty when its first line was looked for. -/
  isDrained : Bool
deriving DecidableEq, Repr

namespace Schedule

/-- The part of the program that reports on deliveries. -/
def source : String := "tesser_terminal::playback::scheduler"

/-- The deliveries of some lines, in order, if their time starts to run at a tick of the clock. -/
def deliveries (lines : List ScheduledLine) (speed : Speed) (start : Nat) : List Delivery :=
  (lines.mergeSort ScheduledLine.isDueBy).map fun line =>
    ⟨start + speed.scaledTicks line.delay, line⟩

/-- The schedule of some lines from a tick of the clock on. -/
def arm (lines : List ScheduledLine) (speed : Speed) (start : Nat) : Schedule :=
  ⟨deliveries lines speed start, false, false⟩

/-- What is reported when some lines are scheduled. -/
def armNotice (lines : List ScheduledLine) (speed : Speed) : Notice :=
  ⟨.debug, source, "Scheduler armed " ++ toString lines.length ++ " deliveries at " ++
    speed.label ++ "x"⟩

/-- The number of lines that will still be delivered. -/
def pending (schedule : Schedule) : Nat :=
  if schedule.isCancelled then 0 else schedule.queue.length

/-- Whether it is known that no further line will be delivered. -/
def isFinished (schedule : Schedule) : Bool :=
  schedule.isCancelled || schedule.isDrained

/-- Whether a delivery is due at a tick of the clock. -/
def isDueAt (now : Nat) (delivery : Delivery) : Bool :=
  delivery.due ≤ now

/-- The deliveries that are due at a tick of the clock, in order. -/
def dueAt (schedule : Schedule) (now : Nat) : List Delivery :=
  if schedule.isCancelled then [] else schedule.queue.takeWhile (isDueAt now)

/-- The schedule after everything due at a tick of the clock has been delivered. -/
def advance (schedule : Schedule) (now : Nat) : Schedule :=
  if schedule.isCancelled then schedule
  else
    let queue := schedule.queue.dropWhile (isDueAt now)
    { schedule with queue, isDrained := queue.isEmpty }

/-- The greatest number of deliveries that are made without letting anyone else take a turn. -/
def turnLength : Nat := 128

/-- The deliveries that are made in one turn at a tick of the clock, in order. -/
def dueInTurn (schedule : Schedule) (now : Nat) : List Delivery :=
  (schedule.dueAt now).take turnLength

/-- The schedule after one turn of deliveries at a tick of the clock. -/
def advanceTurn (schedule : Schedule) (now : Nat) : Schedule :=
  if schedule.isCancelled then schedule
  else
    let queue := schedule.queue.drop (schedule.dueInTurn now).length
    { schedule with queue, isDrained := queue.isEmpty }

/-- The delivery that comes next, whenever it is due. -/
def next? (schedule : Schedule) : Option Delivery :=
  if schedule.isCancelled then none else schedule.queue.head?

/-- The tick of the clock at which the next line is delivered. -/
def nextDue? (schedule : Schedule) : Option Nat :=
  schedule.next?.map Delivery.due

/-- The schedule after the delivery that comes next. -/
def advanceOnce (schedule : Schedule) : Schedule :=
  if schedule.isCancelled then schedule
  else { schedule with queue := schedule.queue.tail, isDrained := schedule.queue.tail.isEmpty }

def deliveryNotice (line : ScheduledLine) : Notice :=
  ⟨.trace, source, "Delivering entry at +" ++ toString line.delay.toNat ++ "ms"⟩

/-- The schedule with all lines given up that have not been delivered. -/
def cancel (schedule : Schedule) : Schedule :=
  { schedule with isCancelled := true }

/-- What is reported when a schedule is cancelled; a second time nothing is. -/
def cancelNotices (schedule : Schedule) : List Notice :=
  if schedule.isCancelled then []
  else
    [⟨.debug, source, "Cancelling schedule with " ++ toString schedule.pending ++
      " pending deliveries"⟩]

end Schedule

/-- A schedule and a clock. -/
structure ScheduleRun where
  now : Nat
  schedule : Schedule
  /-- Whether nobody holds on to the schedule any more; it is then cancelled. -/
  isDropped : Bool
deriving DecidableEq, Repr

namespace ScheduleRun

inductive Step where
  | look
  | advance (milliseconds : Nat)
  | cancel
  | drop
deriving DecidableEq, Repr

/-- A schedule that starts to run with the clock. -/
def start (lines : List ScheduledLine) (speed : Speed) : ScheduleRun :=
  ⟨0, Schedule.arm lines speed 0, false⟩

def delivered (run : ScheduleRun) : Step → List ScheduledLine
  | .advance milliseconds =>
      (run.schedule.dueAt (run.now + milliseconds)).map Delivery.line
  | .look | .cancel | .drop => []

def step (run : ScheduleRun) : Step → ScheduleRun
  | .look => run
  | .advance milliseconds =>
      { run with
        now := run.now + milliseconds
        schedule := run.schedule.advance (run.now + milliseconds) }
  | .cancel => { run with schedule := run.schedule.cancel }
  | .drop => { run with schedule := run.schedule.cancel, isDropped := true }

/-- What is reported during a step. -/
def notices (run : ScheduleRun) (step : Step) : List Notice :=
  match step with
  | .look => []
  | .advance _ => (run.delivered step).map Schedule.deliveryNotice
  | .cancel | .drop => run.schedule.cancelNotices

def states (run : ScheduleRun) : List Step → List ScheduleRun
  | [] => []
  | step :: steps => run.step step :: (run.step step).states steps

end ScheduleRun

end ScriptedFeed
