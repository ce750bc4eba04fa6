import ScriptedFeed.Proofs.Playback.Progress

/-!
# The course of a session

A session that was started at one tick and has played until another has delivered the lines that are
due by then, in the order of delivery. It may play on or have ended; the lines that it has delivered
do not change after its end. Advancing a session that plays moves the second tick, and nothing else
does.
-/

namespace ScriptedFeed

variable {stamp : Nat → Instant}

namespace Session

/--
The lines of a session, in the order of delivery, that are due by a tick if playback began at
another; none before the clock was moved.
-/
def deliveredBy (session : Session) (start : Nat) (until? : Option Nat) : List ScheduledLine :=
  session.script.deliveryOrder.filter fun line =>
    until?.any fun tick => session.dueTick start line ≤ tick

/-- Where a session stands that was started at a tick and has played until another. -/
inductive Course (stamp : Nat → Instant) (session : Session) : Option Nat → Option Nat → Prop where
  | fresh (isFresh : session.IsFresh) : session.Course stamp none none
  | playing {start : Nat} {until? : Option Nat} {rest : List ScheduledLine}
      (plays : session.Plays stamp start (session.deliveredBy start until?) rest) :
      session.Course stamp (some start) until?
  | ended {start : Nat} {until? : Option Nat} (isStopped : session.state = .stopped)
      (schedule?_eq : session.schedule? = none)
      (has : session.HasDelivered stamp (session.deliveredBy start until?)) :
      session.Course stamp (some start) until?

variable {session after : Session} {start now : Nat}
  {start? until? : Option Nat} {done rest : List ScheduledLine} {line : ScheduledLine}

section DeliveredBy

theorem dueTick_eq_of_config_eq (config_eq : after.config = session.config) :
    after.dueTick start = session.dueTick start := by
  funext line
  rw [dueTick, dueTick, config_eq]

theorem deliveredBy_eq_of_eq (script_eq : after.script = session.script)
    (config_eq : after.config = session.config) :
    after.deliveredBy start until? = session.deliveredBy start until? := by
  rw [deliveredBy, deliveredBy, script_eq, dueTick_eq_of_config_eq config_eq]

@[simp]
theorem deliveredBy_none : session.deliveredBy start none = [] := by
  simp [deliveredBy]

theorem dueTick_le_of_mem_deliveredBy (until_le : ∀ tick ∈ until?, tick ≤ now)
    (line_mem : line ∈ session.deliveredBy start until?) : session.dueTick start line ≤ now := by
  have due := List.of_mem_filter line_mem
  simp only [Option.any_eq_true, decide_eq_true_eq] at due
  rcases due with ⟨tick, tick_mem, due_le⟩
  exact due_le.trans (until_le tick tick_mem)

theorem filter_append_eq_left {dueTick : ScheduledLine → Nat}
    (done_due : ∀ line ∈ done, dueTick line ≤ now)
    (rest_not_due : ∀ line ∈ rest, now < dueTick line) :
    ((done ++ rest).filter fun line => (some now).any fun tick => dueTick line ≤ tick) = done := by
  rw [List.filter_append, List.filter_eq_self.2, List.filter_eq_nil_iff.2, List.append_nil]
  · intro line line_mem
    simpa using rest_not_due line line_mem
  · intro line line_mem
    simpa using done_due line line_mem

theorem deliveredBy_eq_of_append (order_eq : session.script.deliveryOrder = done ++ rest)
    (done_due : ∀ line ∈ done, session.dueTick start line ≤ now)
    (rest_not_due : ∀ line ∈ rest, now < session.dueTick start line) :
    session.deliveredBy start (some now) = done := by
  rw [deliveredBy, order_eq]
  exact filter_append_eq_left done_due rest_not_due

end DeliveredBy

/-- After an advance a session that plays has delivered what is due by its tick. -/
theorem Plays.course_advance (plays : session.Plays stamp start done rest)
    (done_due : ∀ line ∈ done, session.dueTick start line ≤ now) :
    (session.advance stamp now).Course stamp (some start) (some now) := by
  rcases plays.advance now with ⟨due, later, rest_eq, advanced, due_le, later_not_due⟩
  have all_due : ∀ line ∈ done ++ due, session.dueTick start line ≤ now := by
    intro line line_mem
    rcases List.mem_append.1 line_mem with done_mem | due_mem
    · exact done_due line done_mem
    · exact due_le line due_mem
  have leads := leads_advance session stamp now
  have delivered_eq : (session.advance stamp now).deliveredBy start (some now) = done ++ due := by
    rw [deliveredBy_eq_of_eq leads.script_eq leads.config_eq]
    apply deliveredBy_eq_of_append _ all_due later_not_due
    rw [plays.order_eq, rest_eq, List.append_assoc]
  rw [← delivered_eq] at advanced
  exact .playing advanced

theorem Course.advance_eq (course : session.Course stamp start? until?)
    (not_running : session.state ≠ .running) (now : Nat) :
    session.advance stamp now = session := by
  cases course with
  | fresh isFresh => exact advance_of_schedule?_eq_none isFresh.schedule?_eq now
  | playing plays => exact absurd plays.isRunning not_running
  | ended isStopped schedule?_eq has => exact advance_of_schedule?_eq_none schedule?_eq now

theorem Course.advanceTurn_eq (course : session.Course stamp start? until?)
    (not_running : session.state ≠ .running) (now : Nat) :
    session.advanceTurn stamp now = session := by
  cases course with
  | fresh isFresh => exact advanceTurn_of_schedule?_eq_none isFresh.schedule?_eq now
  | playing plays => exact absurd plays.isRunning not_running
  | ended isStopped schedule?_eq has => exact advanceTurn_of_schedule?_eq_none schedule?_eq now

theorem Course.exists_plays (course : session.Course stamp start? until?)
    (isRunning : session.state = .running) :
    ∃ start rest, start? = some start ∧
      session.Plays stamp start (session.deliveredBy start until?) rest := by
  cases course with
  | fresh isFresh => exact absurd isRunning isFresh.not_running
  | playing plays => exact ⟨_, _, rfl, plays⟩
  | ended isStopped schedule?_eq has => simp [isStopped] at isRunning

theorem Course.advance (course : session.Course stamp start? until?)
    (isRunning : session.state = .running) (until_le : ∀ tick ∈ until?, tick ≤ now) :
    (session.advance stamp now).Course stamp start? (some now) := by
  rcases course.exists_plays isRunning with ⟨start, rest, rfl, plays⟩
  exact plays.course_advance fun line => dueTick_le_of_mem_deliveredBy until_le

/-- It makes no difference if a turn of deliveries comes first. -/
theorem Course.advanceTurn_advance (course : session.Course stamp start? until?)
    (isRunning : session.state = .running) (until_le : ∀ tick ∈ until?, tick ≤ now) :
    ((session.advanceTurn stamp now).advance stamp now).Course stamp start? (some now) := by
  rcases course.exists_plays isRunning with ⟨start, rest, rfl, plays⟩
  rcases plays.advanceTurn now with ⟨due, later, rest_eq, turned, due_le⟩
  apply turned.course_advance
  rw [dueTick_eq_of_config_eq (leads_advanceTurn session stamp now).config_eq]
  intro line line_mem
  rcases List.mem_append.1 line_mem with done_mem | due_mem
  · exact dueTick_le_of_mem_deliveredBy until_le done_mem
  · exact due_le line due_mem

theorem Course.isFresh_of_idle (course : session.Course stamp start? until?)
    (isIdle : session.state = .idle) : session.IsFresh ∧ until? = none := by
  cases course with
  | fresh isFresh => exact ⟨isFresh, rfl⟩
  | playing plays => simp [plays.isRunning] at isIdle
  | ended isStopped schedule?_eq has => simp [isStopped] at isIdle

theorem Course.start_of_no_error {hasTimer : Bool} (course : session.Course stamp start? until?)
    (no_error : session.startError? hasTimer = none) (now : Nat) :
    (session.start stamp hasTimer now).Course stamp (some now) until? := by
  cases state_eq : session.state with
  | idle =>
      rcases course.isFresh_of_idle state_eq with ⟨isFresh, rfl⟩
      have timer_available : hasTimer = true := by
        simpa [startError?, state_eq] using no_error
      subst timer_available
      have plays := isFresh.start stamp state_eq now
      exact .playing (by simpa using plays)
  | running => simp [startError?, state_eq] at no_error
  | stopped => simp [startError?, state_eq] at no_error

theorem Course.start_of_error {hasTimer : Bool} (course : session.Course stamp start? until?)
    (error : session.startError? hasTimer ≠ none) (now : Nat) :
    (session.start stamp hasTimer now).Course stamp start? until? := by
  by_cases isIdle : session.state = .idle
  · have no_timer : hasTimer = false := by
      simpa [startError?, isIdle] using error
    subst no_timer
    cases course with
    | fresh isFresh => exact .fresh (isFresh.start_without_timer now)
    | playing plays => simp [plays.isRunning] at isIdle
    | ended isStopped schedule?_eq has => simp [isStopped] at isIdle
  · rwa [start_of_not_idle isIdle]

theorem state_stop (session : Session) : session.stop.state = .stopped := by
  simp only [Session.stop]
  split_ifs with isStopped
  · exact isStopped
  · rfl

theorem Course.stop (course : session.Course stamp start? until?) :
    session.stop.Course stamp start? until? := by
  simp only [Session.stop]
  split_ifs with isStopped
  · exact course
  · cases course with
    | fresh isFresh =>
        exact .fresh ⟨by simp [publish], rfl, isFresh.delivered_eq, isFresh.capacity_pos,
          isFresh.lines_eq⟩
    | playing plays =>
        exact .ended rfl rfl ⟨plays.delivered_eq, plays.capacity_pos, plays.holdsNewest⟩
    | ended isStopped' schedule?_eq has => exact absurd isStopped' isStopped

theorem Course.content_of_none (course : session.Course stamp none until?) :
    session.snapshot = [] ∧ session.delivered = 0 := by
  cases course with
  | fresh isFresh => exact ⟨isFresh.lines_eq, isFresh.delivered_eq⟩

/-- After the start the feed holds the newest of the seed lines and the lines that were due. -/
theorem Course.content_of_some (course : session.Course stamp (some start) until?) :
    session.snapshot = (session.fed stamp (session.deliveredBy start until?)).rtake
        session.buffer.capacity.toNat ∧
      session.delivered = (session.deliveredBy start until?).length := by
  cases course with
  | playing plays => exact ⟨plays.holdsNewest, plays.delivered_eq⟩
  | ended isStopped schedule?_eq has => exact ⟨has.holdsNewest, has.delivered_eq⟩

/-- A session never counts more deliveries than it has lines to deliver. -/
theorem Course.accounts (course : session.Course stamp start? until?) :
    session.progress.Accounts session.script.scheduled.length := by
  apply accounts_of_delivered_le
  cases start? with
  | none => simp [course.content_of_none.2]
  | some start =>
      rw [course.content_of_some.2]
      exact (List.length_filter_le _ _).trans (List.length_mergeSort _).le

/-- What the feed holds is determined by the two ticks. -/
theorem Course.content_eq {other : Session} (course : session.Course stamp start? until?)
    (other_course : other.Course stamp start? until?) (script_eq : other.script = session.script)
    (config_eq : other.config = session.config)
    (capacity_eq : other.buffer.capacity = session.buffer.capacity) :
    other.snapshot = session.snapshot ∧ other.delivered = session.delivered := by
  cases start? with
  | none =>
      rcases course.content_of_none with ⟨snapshot_eq, delivered_eq⟩
      rcases other_course.content_of_none with ⟨other_snapshot_eq, other_delivered_eq⟩
      exact ⟨other_snapshot_eq.trans snapshot_eq.symm, other_delivered_eq.trans delivered_eq.symm⟩
  | some start =>
      have delivered_by : other.deliveredBy start until? = session.deliveredBy start until? :=
        deliveredBy_eq_of_eq script_eq config_eq
      rcases course.content_of_some with ⟨snapshot_eq, delivered_eq⟩
      rcases other_course.content_of_some with ⟨other_snapshot_eq, other_delivered_eq⟩
      rw [delivered_by] at other_snapshot_eq other_delivered_eq
      rw [fed_eq_of_script_eq script_eq, capacity_eq] at other_snapshot_eq
      exact ⟨other_snapshot_eq.trans snapshot_eq.symm, other_delivered_eq.trans delivered_eq.symm⟩

end Session

end ScriptedFeed
