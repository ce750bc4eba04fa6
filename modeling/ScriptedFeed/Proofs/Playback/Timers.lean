import ScriptedFeed.Proofs.Playback.Schedule

/-!
# One queue does what independent timers do

A schedule sleeps until its first line is due and does not look at the others. Here it is compared
with a bank of timers, one for each line, that know nothing of each other: whenever the clock moves,
every timer that has become due fires, and the lines of those that fire together come out by delay
and, where delays agree, as authored. Both deliver the same lines at every step of every run, so
that no line ever waits behind one that is due later.

The positions of the timers tell lines apart that are equal in text and delay. They also turn the
order of delivery into one that no two timers share, in which sorting and taking out what is due
can be exchanged.
-/

namespace ScriptedFeed

/-- A timer that delivers one line of a script. -/
structure Timer where
  /-- The place of the line in the script. -/
  position : Nat
  line : ScheduledLine
  due : Nat
deriving DecidableEq, Repr

namespace Timer

/-- The timer of a line at a position, set when the clock starts. -/
def ofLine (speed : Speed) (entry : ScheduledLine × Nat) : Timer :=
  ⟨entry.2, entry.1, speed.scaledTicks entry.1.delay⟩

/-- Whether a timer comes first of two that fire together: by delay, then by position. -/
def precedes (timer other : Timer) : Bool :=
  timer.line.delay < other.line.delay ||
    (timer.line.delay == other.line.delay && timer.position ≤ other.position)

/-- Whether the timer fires when the clock has come to a tick. -/
def isDueAt (now : Nat) (timer : Timer) : Bool :=
  timer.due ≤ now

/-- The delivery that the timer makes. -/
def delivery (timer : Timer) : Delivery :=
  ⟨timer.due, timer.line⟩

end Timer

/-- Timers that are independent of each other, and a clock. -/
structure TimerBank where
  now : Nat
  /-- The timers that have not fired, in the order of the script. -/
  waiting : List Timer
  isCancelled : Bool
deriving DecidableEq, Repr

namespace TimerBank

/-- One timer for every line, set when the clock starts. -/
def set (lines : List ScheduledLine) (speed : Speed) : TimerBank :=
  ⟨0, lines.zipIdx.map (Timer.ofLine speed), false⟩

/-- The timers that have not fired and are due at a tick of the clock, in the order of delivery. -/
def dueAt (bank : TimerBank) (now : Nat) : List Timer :=
  (bank.waiting.filter (Timer.isDueAt now)).mergeSort Timer.precedes

/-- The lines of the timers that fire in a step. -/
def fired (bank : TimerBank) : ScheduleRun.Step → List ScheduledLine
  | .advance milliseconds =>
      if bank.isCancelled then []
      else (bank.dueAt (bank.now + milliseconds)).map Timer.line
  | .look | .cancel | .drop => []

/-- The timers and the clock after a step. -/
def step (bank : TimerBank) : ScheduleRun.Step → TimerBank
  | .look => bank
  | .advance milliseconds =>
      { bank with
        now := bank.now + milliseconds
        waiting :=
          if bank.isCancelled then bank.waiting
          else bank.waiting.filter fun timer => !timer.isDueAt (bank.now + milliseconds) }
  | .cancel | .drop => { bank with isCancelled := true }

/-- The timers and the clock after some steps. -/
def afterAll (bank : TimerBank) (steps : List ScheduleRun.Step) : TimerBank :=
  steps.foldl step bank

end TimerBank

namespace ScheduleRun

/-- The schedule and the clock after some steps. -/
def afterAll (run : ScheduleRun) (steps : List Step) : ScheduleRun :=
  steps.foldl step run

/-- The lines that some steps deliver, in order. -/
def deliveredIn (run : ScheduleRun) : List Step → List ScheduledLine
  | [] => []
  | step :: steps => run.delivered step ++ (run.step step).deliveredIn steps

end ScheduleRun

namespace Timer

variable {timer other : Timer}

theorem precedes_iff :
    timer.precedes other ↔ timer.line.delay.toNat < other.line.delay.toNat ∨
      (timer.line.delay.toNat = other.line.delay.toNat ∧ timer.position ≤ other.position) := by
  simp [precedes, UInt64.lt_iff_toNat_lt, ← UInt64.toNat_inj]

theorem precedes_trans (first second third : Timer) (before : first.precedes second)
    (after : second.precedes third) : first.precedes third := by
  rw [precedes_iff] at before after ⊢
  omega

theorem precedes_total (timer other : Timer) :
    timer.precedes other || other.precedes timer := by
  rw [Bool.or_eq_true, precedes_iff, precedes_iff]
  omega

/-- No two timers share a place in the order. -/
theorem position_eq_of_precedes (before : timer.precedes other) (after : other.precedes timer) :
    timer.position = other.position := by
  rw [precedes_iff] at before after
  omega

/-- The order of timers is the order of delivery, with ties broken by the position. -/
theorem precedes_ofLine (speed : Speed) (entry other : ScheduledLine × Nat) :
    List.zipIdxLE ScheduledLine.isDueBy entry other =
      (ofLine speed entry).precedes (ofLine speed other) := by
  rw [Bool.eq_iff_iff, precedes_iff]
  simp only [List.zipIdxLE, ScheduledLine.isDueBy, ofLine, decide_eq_true_eq,
    UInt64.le_iff_toNat_le]
  split_ifs with before after
  · simp only [decide_eq_true_eq]
    omega
  · simp only [true_iff]
    omega
  · simp only [false_iff]
    omega

end Timer

namespace TimerBank

variable {bank : TimerBank} {lines : List ScheduledLine} {speed : Speed}

/-- What is true of timers that are set together, and stays true when some of them are gone. -/
structure WellSet (bank : TimerBank) (speed : Speed) : Prop where
  /-- Every timer is set to the scaled delay of its own line. -/
  due_eq : ∀ timer ∈ bank.waiting, timer.due = speed.scaledTicks timer.line.delay
  /-- Timers are told apart by their positions. -/
  eq_of_position : ∀ timer ∈ bank.waiting, ∀ other ∈ bank.waiting,
    timer.position = other.position → timer = other

theorem wellSet_set (lines : List ScheduledLine) (speed : Speed) :
    (set lines speed).WellSet speed := by
  constructor
  · intro timer timer_mem
    simp only [set, List.mem_map] at timer_mem
    rcases timer_mem with ⟨entry, -, rfl⟩
    rfl
  · intro timer timer_mem other other_mem position_eq
    simp only [set, List.mem_map] at timer_mem other_mem
    rcases timer_mem with ⟨⟨line, position⟩, line_mem, rfl⟩
    rcases other_mem with ⟨⟨line', position'⟩, line_mem', rfl⟩
    simp only [Timer.ofLine] at position_eq
    subst position_eq
    rw [List.mem_zipIdx_iff_getElem?] at line_mem line_mem'
    simp_all

theorem waiting_step_subset (bank : TimerBank) (step : ScheduleRun.Step) :
    (bank.step step).waiting ⊆ bank.waiting := by
  intro timer timer_mem
  cases step with
  | look => exact timer_mem
  | advance milliseconds =>
      simp only [TimerBank.step] at timer_mem
      split_ifs at timer_mem
      · exact timer_mem
      · exact List.mem_of_mem_filter timer_mem
  | cancel => exact timer_mem
  | drop => exact timer_mem

theorem WellSet.step (wellSet : bank.WellSet speed) (step : ScheduleRun.Step) :
    (bank.step step).WellSet speed := by
  have waiting_sub := waiting_step_subset bank step
  constructor
  · intro timer timer_mem
    exact wellSet.due_eq timer (waiting_sub timer_mem)
  · intro timer timer_mem other other_mem
    exact wellSet.eq_of_position timer (waiting_sub timer_mem) other (waiting_sub other_mem)

theorem WellSet.due_le {timer other : Timer} (wellSet : bank.WellSet speed)
    (timer_mem : timer ∈ bank.waiting) (other_mem : other ∈ bank.waiting)
    (before : timer.precedes other) : timer.due ≤ other.due := by
  rw [wellSet.due_eq timer timer_mem, wellSet.due_eq other other_mem]
  apply speed.scaledTicks_mono
  rw [Timer.precedes_iff] at before
  rw [UInt64.le_iff_toNat_le]
  omega

/-- Timers that are picked out and then sorted are picked out of the sorted ones. -/
theorem WellSet.mergeSort_filter (wellSet : bank.WellSet speed) (picked : Timer → Bool) :
    (bank.waiting.filter picked).mergeSort Timer.precedes =
      (bank.waiting.mergeSort Timer.precedes).filter picked := by
  have sorted (timers : List Timer) :
      (timers.mergeSort Timer.precedes).Pairwise fun timer other => timer.precedes other :=
    List.pairwise_mergeSort Timer.precedes_trans Timer.precedes_total timers
  refine List.Perm.eq_of_pairwise ?_ (sorted _) ((sorted _).filter picked) ?_
  · intro timer other timer_mem other_mem before after
    rw [List.mem_mergeSort] at timer_mem
    have other_mem := List.mem_mergeSort.1 (List.mem_of_mem_filter other_mem)
    exact wellSet.eq_of_position timer (List.mem_of_mem_filter timer_mem) other other_mem
      (Timer.position_eq_of_precedes before after)
  · exact (List.mergeSort_perm _ _).trans ((List.mergeSort_perm _ _).symm.filter picked)

theorem WellSet.pairwise_due (wellSet : bank.WellSet speed) :
    ((bank.waiting.mergeSort Timer.precedes).map Timer.delivery).Pairwise
      fun delivery other => delivery.due ≤ other.due := by
  rw [List.pairwise_map]
  apply List.Pairwise.imp_of_mem _
    (List.pairwise_mergeSort Timer.precedes_trans Timer.precedes_total bank.waiting)
  intro timer other timer_mem other_mem before
  exact wellSet.due_le (List.mem_mergeSort.1 timer_mem) (List.mem_mergeSort.1 other_mem) before

end TimerBank

namespace ScheduleRun

variable {run : ScheduleRun} {bank : TimerBank} {lines : List ScheduledLine} {speed : Speed}

/-- A schedule and a bank of timers that have the same lines left to deliver. -/
structure Matches (run : ScheduleRun) (bank : TimerBank) : Prop where
  now_eq : run.now = bank.now
  isCancelled_eq : run.schedule.isCancelled = bank.isCancelled
  queue_eq : run.schedule.queue = (bank.waiting.mergeSort Timer.precedes).map Timer.delivery

theorem matches_start (lines : List ScheduledLine) (speed : Speed) :
    (start lines speed).Matches (.set lines speed) := by
  refine ⟨rfl, rfl, ?_⟩
  have sorted_eq : (TimerBank.set lines speed).waiting.mergeSort Timer.precedes =
      (lines.zipIdx.mergeSort (List.zipIdxLE ScheduledLine.isDueBy)).map (Timer.ofLine speed) :=
    (List.map_mergeSort fun entry _ other _ => Timer.precedes_ofLine speed entry other).symm
  have delivery_eq : Timer.delivery ∘ Timer.ofLine speed = speed.delivery 0 ∘ Prod.fst := by
    funext entry
    simp [Timer.delivery, Timer.ofLine, Speed.delivery]
  calc (start lines speed).schedule.queue
    _ = (lines.mergeSort ScheduledLine.isDueBy).map (speed.delivery 0) := rfl
    _ = ((lines.zipIdx.mergeSort (List.zipIdxLE ScheduledLine.isDueBy)).map Prod.fst).map
          (speed.delivery 0) := by rw [← List.mergeSort_zipIdx]
    _ = (lines.zipIdx.mergeSort (List.zipIdxLE ScheduledLine.isDueBy)).map
          (Timer.delivery ∘ Timer.ofLine speed) := by rw [List.map_map, delivery_eq]
    _ = ((TimerBank.set lines speed).waiting.mergeSort Timer.precedes).map Timer.delivery := by
      rw [sorted_eq, List.map_map]

/-- A schedule delivers what fires in a bank of timers that it matches. -/
theorem Matches.delivered_eq (agree : run.Matches bank) (wellSet : bank.WellSet speed)
    (step : Step) :
    run.delivered step = bank.fired step := by
  cases step with
  | advance milliseconds =>
      simp only [delivered, TimerBank.fired, Schedule.dueAt, agree.isCancelled_eq, agree.now_eq]
      split_ifs
      · rfl
      · have due_eq := filter_eq_takeWhile
          (Schedule.pairwise_isDueAt (bank.now + milliseconds) wellSet.pairwise_due)
        rw [List.filter_map] at due_eq
        rw [agree.queue_eq, TimerBank.dueAt, wellSet.mergeSort_filter]
        exact (congrArg (List.map Delivery.line) due_eq).symm.trans (List.map_map ..)
  | look => rfl
  | cancel => rfl
  | drop => rfl

theorem Matches.step (agree : run.Matches bank) (wellSet : bank.WellSet speed) (step : Step) :
    (run.step step).Matches (bank.step step) := by
  cases step with
  | advance milliseconds =>
      by_cases isCancelled : bank.isCancelled
      · have run_isCancelled : run.schedule.isCancelled := agree.isCancelled_eq.trans isCancelled
        constructor <;>
          simp [ScheduleRun.step, TimerBank.step, Schedule.advance, run_isCancelled, isCancelled,
            agree.now_eq, agree.queue_eq]
      · have run_goes_on : run.schedule.isCancelled ≠ true := by
          rwa [agree.isCancelled_eq]
        constructor
        · simp [ScheduleRun.step, TimerBank.step, agree.now_eq]
        · simp [ScheduleRun.step, TimerBank.step, Schedule.advance, agree.isCancelled_eq,
            isCancelled]
        · simp only [ScheduleRun.step, TimerBank.step, Schedule.advance, if_neg run_goes_on,
            if_neg isCancelled, wellSet.mergeSort_filter]
          have left_eq := filter_not_eq_dropWhile
            (Schedule.pairwise_isDueAt (bank.now + milliseconds) wellSet.pairwise_due)
          rw [List.filter_map] at left_eq
          rw [agree.queue_eq, agree.now_eq]
          exact left_eq.symm
  | look => exact agree
  | cancel => exact ⟨agree.now_eq, rfl, agree.queue_eq⟩
  | drop => exact ⟨agree.now_eq, rfl, agree.queue_eq⟩

@[simp]
theorem afterAll_nil (run : ScheduleRun) : run.afterAll [] = run :=
  rfl

@[simp]
theorem afterAll_cons (run : ScheduleRun) (step : Step) (steps : List Step) :
    run.afterAll (step :: steps) = (run.step step).afterAll steps :=
  rfl

theorem afterAll_concat (run : ScheduleRun) (steps : List Step) (step : Step) :
    run.afterAll (steps ++ [step]) = (run.afterAll steps).step step :=
  List.foldl_concat ..

theorem Matches.afterAll (agree : run.Matches bank) (wellSet : bank.WellSet speed)
    (steps : List Step) :
    (run.afterAll steps).Matches (bank.afterAll steps) ∧ (bank.afterAll steps).WellSet speed := by
  induction steps generalizing run bank with
  | nil => exact ⟨agree, wellSet⟩
  | cons step steps ih => exact ih (agree.step wellSet step) (wellSet.step step)

/-- A schedule is cancelled by being cancelled or dropped, and for good. -/
theorem isCancelled_afterAll (run : ScheduleRun) (steps : List Step) :
    (run.afterAll steps).schedule.isCancelled ↔
      run.schedule.isCancelled ∨ .cancel ∈ steps ∨ .drop ∈ steps := by
  induction steps generalizing run with
  | nil => simp
  | cons step steps ih =>
      rw [afterAll_cons, ih]
      cases step with
      | look => simp [ScheduleRun.step]
      | advance milliseconds =>
          simp only [ScheduleRun.step, Schedule.advance]
          split_ifs <;> simp_all
      | cancel => simp [ScheduleRun.step, Schedule.cancel]
      | drop => simp [ScheduleRun.step, Schedule.cancel]

theorem delivered_eq_nil (isCancelled : run.schedule.isCancelled) (step : Step) :
    run.delivered step = [] := by
  cases step <;> simp [delivered, Schedule.dueAt, isCancelled]

theorem deliveredIn_eq_nil (isCancelled : run.schedule.isCancelled) (steps : List Step) :
    run.deliveredIn steps = [] := by
  induction steps generalizing run with
  | nil => rfl
  | cons step steps ih =>
      have still_cancelled : (run.step step).schedule.isCancelled :=
        (isCancelled_afterAll run [step]).2 (.inl isCancelled)
      simp [deliveredIn, delivered_eq_nil isCancelled, ih still_cancelled]

theorem deliveredIn_of_queue_eq_nil (queue_eq : run.schedule.queue = []) (steps : List Step) :
    run.deliveredIn steps = [] := by
  induction steps generalizing run with
  | nil => rfl
  | cons step steps ih =>
      have delivered_nil : run.delivered step = [] := by
        cases step <;> simp [delivered, Schedule.dueAt, queue_eq]
      have still_empty : (run.step step).schedule.queue = [] := by
        cases step with
        | look => exact queue_eq
        | advance milliseconds =>
            simp only [ScheduleRun.step, Schedule.advance]
            split_ifs <;> simp [queue_eq]
        | cancel => exact queue_eq
        | drop => exact queue_eq
      simp [deliveredIn, delivered_nil, ih still_empty]

theorem perm_fired (bank : TimerBank) (step : Step) :
    (bank.fired step ++ (bank.step step).waiting.map Timer.line).Perm
      (bank.waiting.map Timer.line) := by
  cases step with
  | advance milliseconds =>
      simp only [TimerBank.fired, TimerBank.step]
      split_ifs
      · simp
      · rw [← List.map_append]
        apply List.Perm.map
        exact ((List.mergeSort_perm _ _).append_right _).trans (List.filter_append_perm _ _)
  | look => exact List.Perm.refl _
  | cancel => exact List.Perm.refl _
  | drop => exact List.Perm.refl _

/-- Nothing is lost and nothing is delivered twice: what has not been delivered waits. -/
theorem perm_deliveredIn (agree : run.Matches bank) (wellSet : bank.WellSet speed)
    (steps : List Step) :
    (run.deliveredIn steps ++ (bank.afterAll steps).waiting.map Timer.line).Perm
      (bank.waiting.map Timer.line) := by
  induction steps generalizing run bank with
  | nil => exact List.Perm.refl _
  | cons step steps ih =>
      have later := ih (agree.step wellSet step) (wellSet.step step)
      rw [deliveredIn, List.append_assoc, agree.delivered_eq wellSet step]
      exact (later.append_left _).trans (perm_fired bank step)

/-- A schedule learns that its queue is empty when it is advanced. -/
theorem isDrained_afterAll (lines : List ScheduledLine) (speed : Speed) (steps : List Step)
    (goes_on : ((start lines speed).afterAll steps).schedule.isCancelled ≠ true) :
    ((start lines speed).afterAll steps).schedule.isDrained ↔
      (∃ milliseconds, .advance milliseconds ∈ steps) ∧
        ((start lines speed).afterAll steps).schedule.queue = [] := by
  induction steps using List.reverseRecOn with
  | nil => simp [start, Schedule.arm]
  | append_singleton steps step ih =>
      rw [afterAll_concat] at goes_on ⊢
      generalize (start lines speed).afterAll steps = run at ih goes_on ⊢
      cases step with
      | look => simpa [ScheduleRun.step] using ih goes_on
      | advance milliseconds =>
          have went_on : run.schedule.isCancelled ≠ true := by
            intro isCancelled
            simp [ScheduleRun.step, Schedule.advance, isCancelled] at goes_on
          simp [ScheduleRun.step, Schedule.advance, went_on]
      | cancel => simp [ScheduleRun.step, Schedule.cancel] at goes_on
      | drop => simp [ScheduleRun.step, Schedule.cancel] at goes_on

theorem waiting_set (lines : List ScheduledLine) (speed : Speed) :
    (TimerBank.set lines speed).waiting.map Timer.line = lines := by
  have line_eq : Timer.line ∘ Timer.ofLine speed = Prod.fst := rfl
  rw [TimerBank.set, List.map_map, line_eq, List.zipIdx_map_fst]

/--
At every step of every run a schedule delivers what independent timers do. A run of steps divides
the lines into those delivered and those that wait; while it has not been cancelled, an advance
delivers those waiting whose own timer is due, by delay and then by position, and no other step
delivers anything. What the schedule tells of itself agrees with that division, and a cancellation
that comes when there is nothing to give up has no effect.
-/
theorem schedule_refines_timers (lines : List ScheduledLine) (number : Binary64)
    (steps : List Step) :
    let first := start lines (.clamp number)
    let run := first.afterAll steps
    let waiting := ((TimerBank.set lines (.clamp number)).afterAll steps).waiting
    let delivered := first.deliveredIn steps
    let isCancelled := .cancel ∈ steps ∨ .drop ∈ steps
    (delivered ++ waiting.map Timer.line).Perm lines ∧
    (∀ timer ∈ waiting, timer.due = (Speed.clamp number).scaledTicks timer.line.delay) ∧
    (¬isCancelled → ∀ milliseconds, run.delivered (.advance milliseconds) =
      ((waiting.filter (Timer.isDueAt (run.now + milliseconds))).mergeSort Timer.precedes).map
        Timer.line) ∧
    (∀ step, (∀ milliseconds, step ≠ .advance milliseconds) → run.delivered step = []) ∧
    (isCancelled → ∀ later, run.deliveredIn later = []) ∧
    (.drop ∉ steps →
      (¬isCancelled → delivered.length + run.schedule.pending = lines.length) ∧
      (isCancelled → run.schedule.pending = 0) ∧
      (run.schedule.isFinished ↔ isCancelled ∨
        (∃ milliseconds, .advance milliseconds ∈ steps) ∧ delivered.length = lines.length)) ∧
    (isCancelled → run.step .cancel = run) ∧
    (delivered.length = lines.length →
      (run.step .cancel).schedule.pending = run.schedule.pending ∧
      ∀ later, (run.step .cancel).deliveredIn later = run.deliveredIn later) := by
  intro first run waiting delivered isCancelled
  rcases (matches_start lines (.clamp number)).afterAll (TimerBank.wellSet_set lines _) steps with
    ⟨agree, wellSet⟩
  have cancelled_iff : run.schedule.isCancelled ↔ isCancelled := by
    simpa [run, isCancelled, first, start, Schedule.arm] using isCancelled_afterAll first steps
  have divided : (delivered ++ waiting.map Timer.line).Perm lines := by
    have perm := perm_deliveredIn (matches_start lines (.clamp number))
      (TimerBank.wellSet_set lines _) steps
    rwa [waiting_set] at perm
  have queue_length : run.schedule.queue.length = waiting.length := by
    rw [agree.queue_eq, List.length_map, List.length_mergeSort]
  have counted : delivered.length + waiting.length = lines.length := by
    simpa using divided.length_eq
  have queue_nil_iff : run.schedule.queue = [] ↔ delivered.length = lines.length := by
    rw [← List.length_eq_zero_iff]
    omega
  refine ⟨divided, wellSet.due_eq, ?_, ?_, ?_, ?_, ?_, ?_⟩
  · intro goes_on milliseconds
    have bank_goes_on :
        ((TimerBank.set lines (.clamp number)).afterAll steps).isCancelled ≠ true := by
      rwa [← agree.isCancelled_eq, ne_eq, cancelled_iff]
    rw [agree.delivered_eq wellSet, TimerBank.fired, if_neg bank_goes_on, agree.now_eq]
    rfl
  · intro step no_advance
    cases step with
    | advance milliseconds => exact absurd rfl (no_advance milliseconds)
    | look => rfl
    | cancel => rfl
    | drop => rfl
  · intro cancelled later
    exact deliveredIn_eq_nil (cancelled_iff.2 cancelled) later
  · intro _
    refine ⟨?_, ?_, ?_⟩
    · intro goes_on
      rw [Schedule.pending, if_neg (mt cancelled_iff.1 goes_on)]
      omega
    · intro cancelled
      rw [Schedule.pending, if_pos (cancelled_iff.2 cancelled)]
    · simp only [Schedule.isFinished, Bool.or_eq_true, cancelled_iff]
      by_cases cancelled : isCancelled
      · simp [cancelled]
      · have drained_iff := isDrained_afterAll lines (.clamp number) steps
          (mt cancelled_iff.1 cancelled)
        rw [← queue_nil_iff, ← drained_iff]
  · intro cancelled
    have schedule_eq : run.schedule.cancel = run.schedule := by
      rw [Schedule.cancel, ← cancelled_iff.2 cancelled]
    rw [ScheduleRun.step, schedule_eq]
  · intro all_delivered
    have queue_nil := queue_nil_iff.2 all_delivered
    constructor
    · simp [ScheduleRun.step, Schedule.cancel, Schedule.pending, queue_nil]
    · intro later
      rw [deliveredIn_of_queue_eq_nil queue_nil]
      have still_nil : (run.step .cancel).schedule.queue = [] := queue_nil
      exact deliveredIn_of_queue_eq_nil still_nil later

end ScheduleRun

end ScriptedFeed
