import ScriptedFeed.Playback.Session
import ScriptedFeed.Proofs.Feed.Buffer
import ScriptedFeed.Proofs.Playback.Schedule

/-!
# What a session has delivered

The script of a session in the order of delivery is divided at every moment into the lines that have
been delivered and those that are to come. While the session plays, the queue holds the latter and
the feed the newest of the former, after the seed lines. Every operation of a session moves lines
from one part to the other or leaves both as they are, so that whatever is asked of the feed, the
count or the queue can be read off the division.
-/

namespace ScriptedFeed

namespace Session

variable {stamp : Nat → Instant} {session : Session} {line : ScheduledLine}

section Deliver

theorem deliver_of_running (isRunning : session.state = .running) :
    session.deliver stamp line = publish { session with
      buffer := session.buffer.append
        (.ofText line.text (stamp (session.script.seed.length + session.delivered)))
      delivered := session.delivered + 1 } := by
  simp [deliver, isRunning]

theorem deliver_of_not_running (not_running : session.state ≠ .running) :
    session.deliver stamp line = session := by
  simp [deliver, not_running]

@[simp]
theorem script_deliver : (session.deliver stamp line).script = session.script := by
  simp only [deliver]
  split_ifs <;> rfl

@[simp]
theorem config_deliver : (session.deliver stamp line).config = session.config := by
  simp only [deliver]
  split_ifs <;> rfl

@[simp]
theorem state_deliver : (session.deliver stamp line).state = session.state := by
  simp only [deliver]
  split_ifs <;> rfl

@[simp]
theorem schedule?_deliver : (session.deliver stamp line).schedule? = session.schedule? := by
  simp only [deliver]
  split_ifs <;> rfl

/-- What one delivery keeps, any number of deliveries keep. -/
theorem foldl_deliver_eq {α : Type} (part : Session → α)
    (kept : ∀ (session : Session) (line : ScheduledLine),
      part (session.deliver stamp line) = part session)
    (lines : List ScheduledLine) (session : Session) :
    part (lines.foldl (deliver stamp) session) = part session := by
  induction lines generalizing session with
  | nil => rfl
  | cons line lines ih => exact (ih (session.deliver stamp line)).trans (kept session line)

end Deliver

/-- The lines that have entered the feed of a session that has delivered some of its lines. -/
def fed (session : Session) (stamp : Nat → Instant) (done : List ScheduledLine) : List FeedLine :=
  feedLines stamp (session.script.seed ++ done.map ScheduledLine.text)

theorem fed_eq_of_script_eq {after : Session} {done : List ScheduledLine}
    (script_eq : after.script = session.script) :
    after.fed stamp done = session.fed stamp done := by
  rw [fed, fed, script_eq]

/-- A delivery adds a line to those that have entered the feed. -/
theorem fed_concat (session : Session) (stamp : Nat → Instant) (done : List ScheduledLine)
    (line : ScheduledLine) : session.fed stamp (done ++ [line]) =
    session.fed stamp done ++
      [.ofText line.text (stamp (session.script.seed.length + done.length))] := by
  rw [fed, List.map_append, ← List.append_assoc, List.map_singleton, feedLines_concat]
  simp [fed]

/-- The session has delivered some lines: it has counted them, and its feed holds the newest. -/
structure HasDelivered (stamp : Nat → Instant) (session : Session) (done : List ScheduledLine) :
    Prop where
  delivered_eq : session.delivered = done.length
  capacity_pos : 0 < session.buffer.capacity.toNat
  holdsNewest : session.buffer.HoldsNewest (session.fed stamp done)

namespace HasDelivered

variable {done : List ScheduledLine}

theorem deliver (has : session.HasDelivered stamp done) (isRunning : session.state = .running)
    (line : ScheduledLine) : (session.deliver stamp line).HasDelivered stamp (done ++ [line]) := by
  rw [deliver_of_running isRunning, has.delivered_eq]
  constructor
  · simp [publish]
  · exact has.capacity_pos
  · have longer := has.holdsNewest.append has.capacity_pos
      (.ofText line.text (stamp (session.script.seed.length + done.length)))
    rw [← fed_concat] at longer
    exact longer

theorem deliverAll (has : session.HasDelivered stamp done) (isRunning : session.state = .running)
    (lines : List ScheduledLine) :
    (lines.foldl (Session.deliver stamp) session).HasDelivered stamp (done ++ lines) := by
  induction lines generalizing session done with
  | nil => simpa using has
  | cons line lines ih => simpa using ih (has.deliver isRunning line) (by simpa using isRunning)

end HasDelivered

/-- The tick at which a line of the session is due if playback began at another. -/
def dueTick (session : Session) (start : Nat) (line : ScheduledLine) : Nat :=
  start + session.config.playedSpeed.scaledTicks line.delay

/-- The schedule of the lines that are to come if playback began at a tick of the clock. -/
def scheduleOf (session : Session) (start : Nat) (rest : List ScheduledLine) (isDrained : Bool) :
    Schedule :=
  ⟨rest.map (session.config.playedSpeed.delivery start), false, isDrained⟩

/--
The session plays: its lines in the order of delivery are divided into those that have been
delivered and those that are queued, each with the tick at which it is due.
-/
structure Plays (stamp : Nat → Instant) (start : Nat) (session : Session)
    (done rest : List ScheduledLine) : Prop extends session.HasDelivered stamp done where
  isRunning : session.state = .running
  order_eq : session.script.deliveryOrder = done ++ rest
  schedule?_eq : ∃ isDrained, session.schedule? = some (session.scheduleOf start rest isDrained)

section ScheduleOf

variable (session : Session) (start now : Nat) (rest : List ScheduledLine) (isDrained : Bool)

theorem dueAt_scheduleOf :
    ((session.scheduleOf start rest isDrained).dueAt now).map Delivery.line =
      rest.takeWhile fun line => session.dueTick start line ≤ now := by
  simp only [scheduleOf, Schedule.dueAt, Bool.false_eq_true, if_false, List.takeWhile_map,
    List.map_map]
  exact List.map_id _

theorem advance_scheduleOf : ∃ isDrained', (session.scheduleOf start rest isDrained).advance now =
    session.scheduleOf start (rest.dropWhile fun line => session.dueTick start line ≤ now)
      isDrained' := by
  simp only [scheduleOf, Schedule.advance, Bool.false_eq_true, if_false, List.dropWhile_map]
  exact ⟨_, rfl⟩

theorem dueInTurn_scheduleOf :
    ((session.scheduleOf start rest isDrained).dueInTurn now).map Delivery.line =
      (rest.takeWhile fun line => session.dueTick start line ≤ now).take Schedule.turnLength := by
  rw [Schedule.dueInTurn, List.map_take, dueAt_scheduleOf]

theorem advanceTurn_scheduleOf :
    ∃ isDrained', (session.scheduleOf start rest isDrained).advanceTurn now =
      session.scheduleOf start
        (rest.drop ((rest.takeWhile fun line => session.dueTick start line ≤ now).take
          Schedule.turnLength).length) isDrained' := by
  have turn_length : ((session.scheduleOf start rest isDrained).dueInTurn now).length =
      ((rest.takeWhile fun line => session.dueTick start line ≤ now).take
        Schedule.turnLength).length := by
    rw [← dueInTurn_scheduleOf, List.length_map]
  rw [← turn_length]
  simp only [Schedule.advanceTurn, scheduleOf, Bool.false_eq_true, if_false, ← List.map_drop]
  exact ⟨_, rfl⟩

end ScheduleOf

namespace Plays

variable {start now : Nat} {done due later rest : List ScheduledLine}

/-- Delivering an initial part of what is queued moves it to what has been delivered. -/
theorem deliverAll (plays : session.Plays stamp start done (due ++ later)) (isDrained : Bool) :
    (due.foldl (deliver stamp)
      { session with schedule? := some (session.scheduleOf start later isDrained) }).Plays stamp
      start (done ++ due) later := by
  generalize queued_eq :
    { session with schedule? := some (session.scheduleOf start later isDrained) } = queued
  have has : queued.HasDelivered stamp done := by
    subst queued_eq
    exact ⟨plays.delivered_eq, plays.capacity_pos, plays.holdsNewest⟩
  have isRunning : queued.state = .running := by
    subst queued_eq
    exact plays.isRunning
  refine ⟨has.deliverAll isRunning due, ?_, ?_, isDrained, ?_⟩
  · rw [foldl_deliver_eq Session.state (fun _ _ => state_deliver), isRunning]
  · rw [foldl_deliver_eq Session.script (fun _ _ => script_deliver), ← queued_eq, plays.order_eq,
      List.append_assoc]
  · rw [foldl_deliver_eq Session.schedule? (fun _ _ => schedule?_deliver), scheduleOf,
      foldl_deliver_eq Session.config (fun _ _ => config_deliver), ← queued_eq]
    rfl

theorem length_scheduled (plays : session.Plays stamp start done rest) :
    session.script.scheduled.length = done.length + rest.length := by
  rw [← List.length_append, ← plays.order_eq]
  exact (List.length_mergeSort _).symm

theorem pairwise_dueTick (plays : session.Plays stamp start done rest) :
    rest.Pairwise fun line other => session.dueTick start line ≤ session.dueTick start other := by
  have sorted := ScheduledLine.pairwise_mergeSort session.script.scheduled
  have order_eq : session.script.scheduled.mergeSort ScheduledLine.isDueBy = done ++ rest :=
    plays.order_eq
  rw [order_eq] at sorted
  have rest_sorted := List.Pairwise.sublist (List.sublist_append_right done rest) sorted
  exact rest_sorted.imp (Schedule.due_le_due session.config.playedSpeed start)

/-- An advance delivers what is due at the tick, and nothing that is not. -/
theorem advance (plays : session.Plays stamp start done rest) (now : Nat) :
    ∃ due later, rest = due ++ later ∧
      (session.advance stamp now).Plays stamp start (done ++ due) later ∧
      (∀ line ∈ due, session.dueTick start line ≤ now) ∧
      (∀ line ∈ later, now < session.dueTick start line) := by
  rcases plays.schedule?_eq with ⟨isDrained, schedule?_eq⟩
  rcases advance_scheduleOf session start now rest isDrained with ⟨isDrained', advanced_eq⟩
  let isDue := fun line => decide (session.dueTick start line ≤ now)
  have rest_eq : rest.takeWhile isDue ++ rest.dropWhile isDue = rest :=
    List.takeWhile_append_dropWhile
  refine ⟨rest.takeWhile isDue, rest.dropWhile isDue, rest_eq.symm, ?_, ?_, ?_⟩
  · rw [← rest_eq] at plays
    have delivered := plays.deliverAll isDrained'
    rw [← advanced_eq] at delivered
    simpa only [Session.advance, Session.dueAt, schedule?_eq, dueAt_scheduleOf, Option.map_some]
      using delivered
  · intro line line_mem
    have isDue_line : isDue line := List.mem_takeWhile_imp line_mem
    exact of_decide_eq_true isDue_line
  · intro line line_mem
    have sorted : rest.Pairwise fun line other => isDue other → isDue line := by
      apply plays.pairwise_dueTick.imp
      intro line other due_le
      simp only [isDue, decide_eq_true_eq]
      exact due_le.trans
    simpa [isDue] using not_isDue_of_mem_dropWhile sorted line_mem

/-- A turn delivers nothing but what is due at the tick. -/
theorem advanceTurn (plays : session.Plays stamp start done rest) (now : Nat) :
    ∃ due later, rest = due ++ later ∧
      (session.advanceTurn stamp now).Plays stamp start (done ++ due) later ∧
      (∀ line ∈ due, session.dueTick start line ≤ now) := by
  rcases plays.schedule?_eq with ⟨isDrained, schedule?_eq⟩
  rcases advanceTurn_scheduleOf session start now rest isDrained with ⟨isDrained', advanced_eq⟩
  let isDue := fun line => decide (session.dueTick start line ≤ now)
  let due := (rest.takeWhile isDue).take Schedule.turnLength
  have rest_eq : due ++ rest.drop due.length = rest :=
    List.prefix_iff_eq_append.1 ((List.take_prefix _ _).trans (List.takeWhile_prefix _))
  refine ⟨due, rest.drop due.length, rest_eq.symm, ?_, ?_⟩
  · rw [← rest_eq] at plays
    have delivered := plays.deliverAll isDrained'
    rw [← advanced_eq] at delivered
    simpa only [Session.advanceTurn, schedule?_eq, dueInTurn_scheduleOf] using delivered
  · intro line line_mem
    have isDue_line : isDue line := List.mem_takeWhile_imp (List.mem_of_mem_take line_mem)
    exact of_decide_eq_true isDue_line

theorem deliverNext {line : ScheduledLine}
    (plays : session.Plays stamp start done (line :: later)) :
    (session.deliverNext stamp).Plays stamp start (done ++ [line]) later := by
  rcases plays.schedule?_eq with ⟨isDrained, schedule?_eq⟩
  have plays : session.Plays stamp start done ([line] ++ later) := plays
  have delivered := plays.deliverAll later.isEmpty
  simpa [Session.deliverNext, schedule?_eq, Schedule.next?, Schedule.advanceOnce, scheduleOf,
    Speed.delivery] using delivered

theorem deliverNext_of_nil (plays : session.Plays stamp start done []) :
    session.deliverNext stamp = session := by
  rcases plays.schedule?_eq with ⟨isDrained, schedule?_eq⟩
  simp [Session.deliverNext, schedule?_eq, Schedule.next?, scheduleOf]

end Plays

/-- Nothing has entered the feed of the session, and nothing is scheduled. -/
structure IsFresh (session : Session) : Prop where
  not_running : session.state ≠ .running
  schedule?_eq : session.schedule? = none
  delivered_eq : session.delivered = 0
  capacity_pos : 0 < session.buffer.capacity.toNat
  lines_eq : session.buffer.lines = []

theorem isFresh_of_create {script : Script} {config : PlaybackConfig}
    (created : create script config = .ok session) :
    session.IsFresh ∧ session.state = .idle ∧ session.channel.value = session.progress ∧
      session.script = script ∧ session.config = config.clamped ∧
      session.buffer.capacity = config.capacity := by
  simp only [create] at created
  rcases buffer_eq : Buffer.create config.capacity with _ | buffer
  · simp [buffer_eq, bind, Except.bind] at created
  · rcases Buffer.holdsNewest_of_create buffer_eq with ⟨capacity_eq, capacity_pos, holds⟩
    simp only [buffer_eq, bind, Except.bind, pure, Except.pure, Except.ok.injEq] at created
    subst created
    refine ⟨⟨by simp, rfl, rfl, ?_, ?_⟩, rfl, rfl, rfl, rfl, capacity_eq⟩
    · rwa [capacity_eq]
    · simpa [Buffer.HoldsNewest] using holds

/-- A session that starts plays all its lines, and shows the seed lines. -/
theorem IsFresh.start (isFresh : session.IsFresh) (stamp : Nat → Instant)
    (isIdle : session.state = .idle) (now : Nat) :
    (session.start stamp true now).Plays stamp now [] session.script.deliveryOrder := by
  simp only [Session.start, isIdle, if_true]
  refine ⟨⟨?_, ?_, ?_⟩, rfl, rfl, false, rfl⟩
  · exact isFresh.delivered_eq
  · simpa [publish, Buffer.capacity_foldl_append] using isFresh.capacity_pos
  · have empty : session.buffer.HoldsNewest [] := by
      simp [Buffer.HoldsNewest, isFresh.lines_eq]
    have shown := empty.foldl_append isFresh.capacity_pos (session.seedLines stamp)
    simpa [publish, seedLines, fed, feedLines] using shown

theorem IsFresh.start_without_timer (isFresh : session.IsFresh) (now : Nat) :
    (session.start stamp false now).IsFresh := by
  simp only [Session.start]
  split
  · exact isFresh
  · exact isFresh
  · exact ⟨by simp [publish], isFresh.schedule?_eq, isFresh.delivered_eq, isFresh.capacity_pos,
      isFresh.lines_eq⟩

theorem start_of_not_idle (not_idle : session.state ≠ .idle) (hasTimer : Bool) (now : Nat) :
    session.start stamp hasTimer now = session := by
  simp only [start]
  split
  · rfl
  · rfl
  · contradiction

@[simp]
theorem state_advance (now : Nat) : (session.advance stamp now).state = session.state :=
  foldl_deliver_eq Session.state (fun _ _ => state_deliver) _ _

theorem advance_of_schedule?_eq_none (schedule?_eq : session.schedule? = none) (now : Nat) :
    session.advance stamp now = session := by
  simp only [advance, dueAt, schedule?_eq, Option.map_none, List.foldl_nil]
  rw [← schedule?_eq]

theorem advanceTurn_of_schedule?_eq_none (schedule?_eq : session.schedule? = none) (now : Nat) :
    session.advanceTurn stamp now = session := by
  simp only [advanceTurn, schedule?_eq]

end Session

end ScriptedFeed
