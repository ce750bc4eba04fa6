import ScriptedFeed.Proofs.Playback.Course

/-!
# The content of the feed is a function of time

What the feed shows after a run of steps depends on two ticks of the clock only: the one at which
playback was started and the one to which the clock has been moved while the session played. Between
them every line was delivered that is due by then, in the order of delivery. How often the clock was
moved, what was looked at meanwhile and who waited for what makes no difference.

The two ticks are remembered beside the timeline, by a reading of the steps and their answers that
knows nothing of schedules and feeds.
-/

namespace ScriptedFeed

/-- Whether a step moves the clock. -/
def Timeline.Step.movesClock : Timeline.Step → Bool
  | .advance _ | .wait _ _ => true
  | .look | .start | .stop | .drop | .subscribe | .observe _ | .render => false

/-- A timeline and what its steps and their answers tell of the time. -/
structure History where
  timeline : Timeline
  /-- The tick at which playback was started. -/
  startedAt? : Option Nat
  /-- The tick to which the clock was moved last while the session played. -/
  playedUntil? : Option Nat

namespace History

/-- Nothing has been done yet. -/
def ofSession (session : Session) (hasTimer : Bool) (window : Window) : History :=
  ⟨.ofSession session hasTimer window, none, none⟩

/-- The history with one more step. -/
def step (history : History) (stamp : Nat → Instant) (step : Timeline.Step) : History where
  timeline := history.timeline.step stamp step
  startedAt? :=
    if history.timeline.reply stamp step = .started then some history.timeline.now
    else history.startedAt?
  playedUntil? :=
    if step.movesClock ∧ history.timeline.session.state = .running then
      some (history.timeline.step stamp step).now
    else history.playedUntil?

/-- The history with some more steps. -/
def afterAll (history : History) (stamp : Nat → Instant) (steps : List Timeline.Step) : History :=
  steps.foldl (fun history step => history.step stamp step) history

end History

variable {stamp : Nat → Instant}

section Step

variable {timeline : Timeline} {step : Timeline.Step}

theorem Timeline.answer_ne_started (not_start : step ≠ .start) :
    timeline.answer stamp step ≠ .started := by
  cases step with
  | start => exact absurd rfl not_start
  | wait follower limit =>
      simp only [answer, waitReply, awaited]
      repeat' split
      all_goals simp
  | _ => simp [answer]

/-- Only a start is answered by one, and only if nothing prevents it. -/
theorem Timeline.reply_eq_started_iff :
    timeline.reply stamp step = .started ↔
      step = .start ∧ timeline.isDropped = false ∧
        timeline.session.startError? timeline.hasTimer = none := by
  by_cases isStart : step = .start
  · subst isStart
    simp only [reply, isPossible, answer]
    by_cases isDropped : timeline.isDropped
    · simp [isDropped]
    · cases timeline.session.startError? timeline.hasTimer <;> simp [isDropped]
  · simp only [isStart, false_and, iff_false, reply]
    split_ifs
    · exact answer_ne_started isStart
    · simp
    · simp

/--
A step that moves the clock delivers what is due at the tick to which it moves it, at once or after
a turn of deliveries; without an owner there may be nobody to wait for.
-/
theorem Timeline.step_of_movesClock (timeline : Timeline) (stamp : Nat → Instant)
    (moves : step.movesClock) :
    (timeline.step stamp step).isDropped = timeline.isDropped ∧
    timeline.now ≤ (timeline.step stamp step).now ∧
    ((timeline.step stamp step).session =
        timeline.session.advance stamp (timeline.step stamp step).now ∨
      (timeline.step stamp step).session =
        (timeline.session.advanceTurn stamp (timeline.step stamp step).now).advance stamp
          (timeline.step stamp step).now ∨
      timeline.isDropped ∧ (timeline.step stamp step).session = timeline.session) := by
  cases step with
  | advance milliseconds => exact ⟨rfl, Nat.le_add_right .., .inl rfl⟩
  | wait follower limit =>
      simp only [Timeline.step, isPossible, if_true, take, afterWait]
      split_ifs with unseen isDropped
      · exact ⟨rfl, le_rfl, .inl rfl⟩
      · exact ⟨rfl, le_rfl, .inr (.inr ⟨isDropped, rfl⟩)⟩
      · cases wake_eq : timeline.wakeTick? limit with
        | none => exact ⟨rfl, Nat.le_add_right .., .inl rfl⟩
        | some tick =>
            have now_le : timeline.now ≤ tick := by
              simp only [wakeTick?, Option.filter_eq_some_iff, Option.map_eq_some_iff] at wake_eq
              rcases wake_eq with ⟨⟨due, -, rfl⟩, -⟩
              exact le_max_left _ _
            exact ⟨rfl, now_le, .inr (.inl rfl)⟩
  | _ => simp [Timeline.Step.movesClock] at moves

/-- A step that neither starts the session nor moves the clock stops the session or leaves it. -/
theorem Timeline.step_of_not_movesClock (timeline : Timeline) (stamp : Nat → Instant)
    (stands : ¬step.movesClock) (not_start : step ≠ .start) :
    (timeline.step stamp step).now = timeline.now ∧
    ((timeline.step stamp step).session = timeline.session.stop ∨
      (timeline.step stamp step).session = timeline.session ∧
        (timeline.step stamp step).isDropped = timeline.isDropped) := by
  simp only [Timeline.step]
  split_ifs
  · cases step with
    | look => exact ⟨rfl, .inr ⟨rfl, rfl⟩⟩
    | start => exact absurd rfl not_start
    | stop => exact ⟨rfl, .inl rfl⟩
    | drop => exact ⟨rfl, .inl rfl⟩
    | subscribe => exact ⟨rfl, .inr ⟨rfl, rfl⟩⟩
    | observe follower => exact ⟨rfl, .inr ⟨rfl, rfl⟩⟩
    | render => exact ⟨rfl, .inr ⟨rfl, rfl⟩⟩
    | advance milliseconds => exact absurd rfl stands
    | wait follower limit => exact absurd rfl stands
  · exact ⟨rfl, .inr ⟨rfl, rfl⟩⟩

end Step

namespace History

variable {history : History}

@[simp]
theorem timeline_step (history : History) (step : Timeline.Step) :
    (history.step stamp step).timeline = history.timeline.step stamp step :=
  rfl

/-- What is true of a history from the creation of the session on. -/
structure Sound (history : History) (stamp : Nat → Instant) : Prop where
  course : history.timeline.session.Course stamp history.startedAt? history.playedUntil?
  until_le : ∀ tick ∈ history.playedUntil?, tick ≤ history.timeline.now
  isStopped : history.timeline.isDropped → history.timeline.session.state = .stopped

theorem sound_ofSession {session : Session} (isFresh : session.IsFresh) (hasTimer : Bool)
    (window : Window) : (ofSession session hasTimer window).Sound stamp :=
  ⟨.fresh isFresh, nofun, nofun⟩

section Step

variable {step : Timeline.Step}

theorem startedAt?_step_of_ne (not_start : step ≠ .start) :
    (history.step stamp step).startedAt? = history.startedAt? := by
  simp only [History.step, Timeline.reply_eq_started_iff, not_start, false_and, if_false]

theorem playedUntil?_step (moves : step.movesClock)
    (isRunning : history.timeline.session.state = .running) :
    (history.step stamp step).playedUntil? = some (history.timeline.step stamp step).now := by
  simp only [History.step, moves, isRunning, and_self, if_true]

theorem playedUntil?_step_of_not (history : History) (stamp : Nat → Instant)
    (not_played : ¬(step.movesClock ∧ history.timeline.session.state = .running)) :
    (history.step stamp step).playedUntil? = history.playedUntil? := by
  simp only [History.step, not_played, if_false]

/-- Where the clock is moved while the session plays, it plays until the new tick. -/
theorem Sound.step_of_running (sound : history.Sound stamp) (moves : step.movesClock)
    (isRunning : history.timeline.session.state = .running) :
    (history.step stamp step).Sound stamp := by
  rcases Timeline.step_of_movesClock history.timeline stamp moves with
    ⟨isDropped_eq, now_le, session_eq⟩
  have not_start : step ≠ .start := by
    rintro rfl
    simp [Timeline.Step.movesClock] at moves
  have owned : ¬history.timeline.isDropped := by
    intro isDropped
    simp [sound.isStopped isDropped] at isRunning
  have until_le : ∀ tick ∈ history.playedUntil?, tick ≤ (history.timeline.step stamp step).now :=
    fun tick tick_mem => (sound.until_le tick tick_mem).trans now_le
  refine ⟨?_, ?_, ?_⟩
  -- What has been delivered is due by the tick of the last move, and so by the new one.
  · rw [startedAt?_step_of_ne not_start, playedUntil?_step moves isRunning, timeline_step]
    rcases session_eq with session_eq | session_eq | ⟨isDropped, -⟩
    · rw [session_eq]
      exact sound.course.advance isRunning until_le
    · rw [session_eq]
      exact sound.course.advanceTurn_advance isRunning until_le
    · exact absurd isDropped owned
  · simp [playedUntil?_step moves isRunning]
  · intro isDropped
    exact absurd (isDropped_eq.symm.trans isDropped) owned

/-- Where the clock is moved while the session does not play, nothing but the tick changes. -/
theorem Sound.step_of_not_running (sound : history.Sound stamp) (moves : step.movesClock)
    (not_running : history.timeline.session.state ≠ .running) :
    (history.step stamp step).Sound stamp := by
  rcases Timeline.step_of_movesClock history.timeline stamp moves with
    ⟨isDropped_eq, now_le, session_eq⟩
  have not_start : step ≠ .start := by
    rintro rfl
    simp [Timeline.Step.movesClock] at moves
  have unchanged : (history.timeline.step stamp step).session = history.timeline.session := by
    rcases session_eq with session_eq | session_eq | ⟨-, session_eq⟩
    · rw [session_eq, sound.course.advance_eq not_running]
    · rw [session_eq, sound.course.advanceTurn_eq not_running,
        sound.course.advance_eq not_running]
    · exact session_eq
  have not_played : ¬(step.movesClock ∧ history.timeline.session.state = .running) :=
    fun played => not_running played.2
  have until_eq := playedUntil?_step_of_not history stamp not_played
  refine ⟨?_, ?_, ?_⟩
  · rw [startedAt?_step_of_ne not_start, until_eq, timeline_step, unchanged]
    exact sound.course
  · rw [until_eq]
    exact fun tick tick_mem => (sound.until_le tick tick_mem).trans now_le
  · rw [timeline_step, unchanged, isDropped_eq]
    exact sound.isStopped

theorem Sound.step_start (sound : history.Sound stamp) :
    (history.step stamp .start).Sound stamp := by
  have not_played :
      ¬(Timeline.Step.movesClock .start ∧ history.timeline.session.state = .running) := by
    simp [Timeline.Step.movesClock]
  have until_eq := playedUntil?_step_of_not history stamp not_played
  have course_start : (history.step stamp .start).timeline.session.Course stamp
      (history.step stamp .start).startedAt? history.playedUntil? := by
    simp only [History.step, Timeline.reply_eq_started_iff, true_and, Timeline.step,
      Timeline.isPossible]
    by_cases isDropped : history.timeline.isDropped
    · simpa [isDropped] using sound.course
    · by_cases no_error : history.timeline.session.startError? history.timeline.hasTimer = none
      · simpa [isDropped, no_error, Timeline.take] using
          sound.course.start_of_no_error no_error history.timeline.now
      · simpa [isDropped, no_error, Timeline.take] using
          sound.course.start_of_error no_error history.timeline.now
  refine ⟨by rwa [until_eq], ?_, ?_⟩
  · rw [until_eq]
    simp only [timeline_step, Timeline.step]
    split_ifs <;> exact sound.until_le
  · simp only [timeline_step, Timeline.step, Timeline.isPossible]
    by_cases isDropped : history.timeline.isDropped
    · simpa [isDropped] using sound.isStopped isDropped
    · simp [Timeline.take, isDropped]

theorem Sound.step_of_not_movesClock (sound : history.Sound stamp) (stands : ¬step.movesClock)
    (not_start : step ≠ .start) : (history.step stamp step).Sound stamp := by
  rcases Timeline.step_of_not_movesClock history.timeline stamp stands not_start with
    ⟨now_eq, session_eq⟩
  have not_played : ¬(step.movesClock ∧ history.timeline.session.state = .running) :=
    fun played => stands played.1
  have until_eq := playedUntil?_step_of_not history stamp not_played
  refine ⟨?_, ?_, ?_⟩
  · rw [startedAt?_step_of_ne not_start, until_eq, timeline_step]
    rcases session_eq with session_eq | ⟨session_eq, -⟩
    · rw [session_eq]
      exact sound.course.stop
    · rw [session_eq]
      exact sound.course
  · rw [until_eq, timeline_step, now_eq]
    exact sound.until_le
  · rw [timeline_step]
    rcases session_eq with session_eq | ⟨session_eq, isDropped_eq⟩
    · rw [session_eq, Session.state_stop]
      exact fun _ => rfl
    · rw [session_eq, isDropped_eq]
      exact sound.isStopped

end Step

theorem Sound.step (sound : history.Sound stamp) (step : Timeline.Step) :
    (history.step stamp step).Sound stamp := by
  by_cases moves : step.movesClock
  · by_cases isRunning : history.timeline.session.state = .running
    · exact sound.step_of_running moves isRunning
    · exact sound.step_of_not_running moves isRunning
  · by_cases isStart : step = .start
    · subst isStart
      exact sound.step_start
    · exact sound.step_of_not_movesClock moves isStart

theorem Sound.afterAll (sound : history.Sound stamp) (steps : List Timeline.Step) :
    (history.afterAll stamp steps).Sound stamp := by
  induction steps generalizing history with
  | nil => exact sound
  | cons step steps ih => exact ih (sound.step step)

theorem timeline_afterAll (history : History) (steps : List Timeline.Step) :
    (history.afterAll stamp steps).timeline = history.timeline.afterAll stamp steps := by
  induction steps generalizing history with
  | nil => rfl
  | cons step steps ih => exact ih (history.step stamp step)

theorem leads_afterAll (history : History) (stamp : Nat → Instant) (steps : List Timeline.Step) :
    history.timeline.session.Leads (history.afterAll stamp steps).timeline.session := by
  rw [timeline_afterAll]
  exact Timeline.leads_afterAll history.timeline stamp steps

/-- Moving the clock several times plays until the tick that moving it once leads to. -/
theorem afterAll_advances (history : History) (stamp : Nat → Instant) (first : Nat)
    (rest : List Nat) :
    let after := history.afterAll stamp ((first :: rest).map .advance)
    after.startedAt? = history.startedAt? ∧
    after.timeline.session.state = history.timeline.session.state ∧
    after.playedUntil? =
      if history.timeline.session.state = .running then
        some (history.timeline.now + (first :: rest).sum)
      else history.playedUntil? := by
  intro after
  induction rest generalizing history first with
  | nil =>
      refine ⟨startedAt?_step_of_ne (by simp), Session.state_advance _, ?_⟩
      simp [after, afterAll, History.step, Timeline.Step.movesClock, Timeline.step,
        Timeline.isPossible, Timeline.take, Timeline.advanceTo]
  | cons second rest ih =>
      rcases ih (history.step stamp (.advance first)) second with ⟨started_eq, state_eq, until_eq⟩
      have state_step : (history.step stamp (.advance first)).timeline.session.state =
          history.timeline.session.state :=
        Session.state_advance _
      refine ⟨started_eq.trans (startedAt?_step_of_ne (by simp)), state_eq.trans state_step, ?_⟩
      refine until_eq.trans ?_
      rw [state_step]
      split_ifs with isRunning
      · simp [Timeline.step, Timeline.isPossible, Timeline.take, Timeline.advanceTo, Nat.add_assoc]
      · exact playedUntil?_step_of_not history stamp fun played => isRunning played.2

/-- What an interval of time brings does not depend on how it is divided. -/
theorem Sound.content_advances (sound : history.Sound stamp) {split other : List Nat}
    (split_nonempty : split ≠ []) (other_nonempty : other ≠ []) (sum_eq : split.sum = other.sum) :
    let afterSplit := (history.afterAll stamp (split.map .advance)).timeline.session
    let afterOther := (history.afterAll stamp (other.map .advance)).timeline.session
    afterSplit.snapshot = afterOther.snapshot ∧ afterSplit.progress = afterOther.progress := by
  intro afterSplit afterOther
  rcases List.exists_cons_of_ne_nil split_nonempty with ⟨first, rest, rfl⟩
  rcases List.exists_cons_of_ne_nil other_nonempty with ⟨first', rest', rfl⟩
  rcases afterAll_advances history stamp first rest with
    ⟨started_eq, state_eq, until_eq⟩
  rcases afterAll_advances history stamp first' rest' with
    ⟨started_eq', state_eq', until_eq'⟩
  have course := (sound.afterAll ((first :: rest).map .advance)).course
  have course' := (sound.afterAll ((first' :: rest').map .advance)).course
  rw [started_eq, until_eq] at course
  rw [started_eq', until_eq', ← sum_eq] at course'
  have leads := leads_afterAll history stamp ((first :: rest).map .advance)
  have leads' := leads_afterAll history stamp ((first' :: rest').map .advance)
  have script_eq : afterSplit.script = afterOther.script :=
    leads.script_eq.trans leads'.script_eq.symm
  rcases course'.content_eq course script_eq (leads.config_eq.trans leads'.config_eq.symm)
    (leads.capacity_eq.trans leads'.capacity_eq.symm) with ⟨snapshot_eq, delivered_eq⟩
  refine ⟨snapshot_eq, ?_⟩
  rw [Session.progress, Session.progress, delivered_eq, script_eq, state_eq.trans state_eq'.symm]

/--
After any run of steps the feed of a session is empty if no start has succeeded. If one has, the
feed holds the newest of the seed lines and of the lines, in the order of delivery, that are due by
the tick to which the clock was moved while the session played; these are the lines that the session
counts. How the time was divided into steps makes no difference.
-/
theorem feed_content {script : Script} {config : PlaybackConfig} {session : Session}
    (created : Session.create script config = .ok session) (stamp : Nat → Instant)
    (hasTimer : Bool) (window : Window) (steps : List Timeline.Step) :
    let history := (ofSession session hasTimer window).afterAll stamp steps
    let current := history.timeline.session
    (history.startedAt? = none → current.snapshot = [] ∧ current.progress.delivered = 0) ∧
    (∀ start ∈ history.startedAt?,
      let delivered := script.deliveryOrder.filter fun line => history.playedUntil?.any fun tick =>
        start + current.config.playedSpeed.scaledTicks line.delay ≤ tick
      current.snapshot = (feedLines stamp (script.seed ++ delivered.map ScheduledLine.text)).rtake
          config.capacity.toNat ∧
        current.snapshot.map FeedLine.text =
          (script.seed ++ delivered.map ScheduledLine.text).rtake config.capacity.toNat ∧
        (∀ line ∈ current.snapshot, line.category = Category.classify line.text) ∧
        current.progress.delivered = delivered.length) ∧
    (∀ split other : List Nat, split ≠ [] → other ≠ [] → split.sum = other.sum →
      let afterSplit := (history.afterAll stamp (split.map .advance)).timeline.session
      let afterOther := (history.afterAll stamp (other.map .advance)).timeline.session
      afterSplit.snapshot = afterOther.snapshot ∧ afterSplit.progress = afterOther.progress) := by
  intro history current
  rcases Session.isFresh_of_create created with
    ⟨isFresh, -, -, script_eq, -, capacity_eq⟩
  have sound : history.Sound stamp := (sound_ofSession isFresh hasTimer window).afterAll steps
  have leads : session.Leads current :=
    leads_afterAll (ofSession session hasTimer window) stamp steps
  refine ⟨?_, ?_, ?_⟩
  · intro not_started
    have course := sound.course
    rw [not_started] at course
    exact course.content_of_none
  · intro start started delivered
    have course := sound.course
    rw [Option.mem_def.1 started] at course
    rcases course.content_of_some with ⟨snapshot_eq, delivered_eq⟩
    rw [Session.fed, leads.script_eq, leads.capacity_eq, script_eq, capacity_eq] at snapshot_eq
    have delivered_by : current.deliveredBy start history.playedUntil? = delivered := by
      rw [Session.deliveredBy, leads.script_eq, script_eq]
      rfl
    rw [delivered_by] at snapshot_eq delivered_eq
    refine ⟨snapshot_eq, ?_, ?_, delivered_eq⟩
    · rw [snapshot_eq, ← rtake_map, map_text_feedLines]
    · intro line line_mem
      rw [snapshot_eq] at line_mem
      exact category_of_mem_feedLines (List.mem_of_mem_drop line_mem)
  · intro split other split_nonempty other_nonempty sum_eq
    exact sound.content_advances split_nonempty other_nonempty sum_eq

/-- Of two lines that are not authored in order, the feed shows the one that is due. -/
theorem feed_content_out_of_order :
    let script : Script := ⟨["boot", "ready"], [⟨"WARN late", 2000⟩, ⟨"EXEC soon", 500⟩]⟩
    let config : PlaybackConfig := { PlaybackConfig.standard with capacity := 2 }
    ∃ session, Session.create script config = .ok session ∧
      let current := ((ofSession session true (.create .plain false)).afterAll (fun _ => .epoch)
        [.start, .advance 400, .advance 600]).timeline.session
      current.snapshot = [⟨"ready", .epoch, .info⟩, ⟨"EXEC soon", .epoch, .execution⟩] ∧
        current.snapshot.map FeedLine.text = ["ready", "EXEC soon"] ∧
        current.progress.delivered = 1 := by
  intro script config
  have created : Session.create script config = .ok _ := rfl
  refine ⟨_, created, ?_⟩
  have order_eq : script.deliveryOrder = [⟨"EXEC soon", 500⟩, ⟨"WARN late", 2000⟩] := by
    simp [script, Script.deliveryOrder, List.mergeSort, List.MergeSort.Internal.splitInTwo,
      ScheduledLine.isDueBy]
  rcases feed_content created (fun _ => .epoch) true (.create .plain false) [.start] with
    ⟨-, -, undivided⟩
  rcases undivided [400, 600] [1000] (by simp) (by simp) rfl with ⟨same_snapshot, same_progress⟩
  rcases feed_content created (fun _ => .epoch) true (.create .plain false)
    [.start, .advance 1000] with ⟨-, content, -⟩
  rcases content 0 rfl with ⟨snapshot_eq, texts_eq, -, delivered_eq⟩
  rw [order_eq, (leads_afterAll _ _ _).config_eq] at snapshot_eq texts_eq delivered_eq
  refine ⟨same_snapshot.trans (snapshot_eq.trans ?_), ?_, ?_⟩
  · decide +kernel
  · exact (congrArg (List.map FeedLine.text) same_snapshot).trans
      (texts_eq.trans (by decide +kernel))
  · exact (congrArg Progress.delivered same_progress).trans
      (delivered_eq.trans (by decide +kernel))

end History

end ScriptedFeed
