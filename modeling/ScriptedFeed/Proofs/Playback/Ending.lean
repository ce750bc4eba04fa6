import ScriptedFeed.Proofs.Playback.Content

/-!
# Stopping is final

A session that is stopped shows what it showed before, for good. Two things see to it, and each
would do: nothing is scheduled any more, and a delivery that is under way all the same finds a
session that does not run. Whatever is done to the session later leaves it as it is, so that its
followers have nothing to learn after the stop. It cannot be started again; and as a session that
has started can only be stopped, no session is ever started twice.
-/

namespace ScriptedFeed

variable {stamp : Nat → Instant}

namespace Session

variable {session : Session} {start? until? : Option Nat}

/-- The session has been stopped, and nothing of it is scheduled. -/
structure IsOver (session : Session) : Prop where
  isStopped : session.state = .stopped
  schedule?_eq : session.schedule? = none

theorem Course.isOver (course : session.Course stamp start? until?)
    (isStopped : session.state = .stopped) : session.IsOver := by
  cases course with
  | fresh isFresh => exact ⟨isStopped, isFresh.schedule?_eq⟩
  | playing plays => simp [plays.isRunning] at isStopped
  | ended isStopped schedule?_eq has => exact ⟨isStopped, schedule?_eq⟩

namespace IsOver

theorem start_eq (isOver : session.IsOver) (hasTimer : Bool) (now : Nat) :
    session.start stamp hasTimer now = session := by
  apply start_of_not_idle
  simp [isOver.isStopped]

theorem startError?_eq (isOver : session.IsOver) (hasTimer : Bool) :
    session.startError? hasTimer = some .alreadyStopped := by
  simp only [startError?, isOver.isStopped]

theorem stop_eq (isOver : session.IsOver) : session.stop = session := by
  simp only [Session.stop, isOver.isStopped, if_true]

theorem advance_eq (isOver : session.IsOver) (now : Nat) : session.advance stamp now = session :=
  advance_of_schedule?_eq_none isOver.schedule?_eq now

theorem advanceTurn_eq (isOver : session.IsOver) (now : Nat) :
    session.advanceTurn stamp now = session :=
  advanceTurn_of_schedule?_eq_none isOver.schedule?_eq now

/-- A delivery that comes after the end is not made. -/
theorem deliver_eq (isOver : session.IsOver) (line : ScheduledLine) :
    session.deliver stamp line = session := by
  apply deliver_of_not_running
  simp [isOver.isStopped]

theorem progress_eq (isOver : session.IsOver) :
    session.progress = ⟨.stopped, session.delivered, 0⟩ := by
  simp only [progress, isOver.isStopped, if_true]

end IsOver

@[simp]
theorem snapshot_stop (session : Session) : session.stop.snapshot = session.snapshot := by
  simp only [Session.stop]
  split_ifs <;> rfl

@[simp]
theorem delivered_stop (session : Session) : session.stop.delivered = session.delivered := by
  simp only [Session.stop]
  split_ifs <;> rfl

end Session

namespace Timeline

variable {timeline : Timeline}

/-- The answers to some steps. -/
def replies (timeline : Timeline) (stamp : Nat → Instant) : List Step → List Reply
  | [] => []
  | step :: steps => timeline.reply stamp step :: (timeline.step stamp step).replies stamp steps

/-- Nothing that can be done changes a session that is over. -/
theorem session_step_of_isOver (isOver : timeline.session.IsOver) (stamp : Nat → Instant)
    (step : Step) : (timeline.step stamp step).session = timeline.session := by
  by_cases moves : step.movesClock
  · rcases Timeline.step_of_movesClock timeline stamp moves with
      ⟨-, -, session_eq | session_eq | ⟨-, session_eq⟩⟩
    · rw [session_eq, isOver.advance_eq]
    · rw [session_eq, isOver.advanceTurn_eq, isOver.advance_eq]
    · exact session_eq
  · by_cases isStart : step = .start
    · subst isStart
      simp only [Timeline.step]
      split_ifs
      · exact isOver.start_eq timeline.hasTimer timeline.now
      · rfl
    · rcases Timeline.step_of_not_movesClock timeline stamp moves isStart with
        ⟨-, session_eq | ⟨session_eq, -⟩⟩
      · rw [session_eq, isOver.stop_eq]
      · exact session_eq

theorem session_afterAll_of_isOver (isOver : timeline.session.IsOver) (steps : List Step) :
    (timeline.afterAll stamp steps).session = timeline.session := by
  induction steps generalizing timeline with
  | nil => rfl
  | cons step steps ih =>
      have session_eq := session_step_of_isOver isOver stamp step
      rw [← session_eq] at isOver
      exact (ih isOver).trans session_eq

/-- Whoever looks at a session that is over reads what was published last before. -/
theorem progress_eq_of_observed {news : News} {progress : Progress} {step : Step}
    (isOver : timeline.session.IsOver)
    (observed : timeline.reply stamp step = .observed news progress) :
    progress = timeline.session.channel.value := by
  simp only [reply] at observed
  split_ifs at observed
  cases step with
  | start =>
      simp only [answer, isOver.startError?_eq, reduceCtorEq] at observed
  | observe follower =>
      simp only [answer, Reply.observed.injEq] at observed
      exact observed.2.symm
  | wait follower limit =>
      simp only [answer, waitReply, awaited] at observed
      split_ifs at observed
      · simp only [Reply.observed.injEq] at observed
        exact observed.2.symm
      · simp only [Reply.observed.injEq] at observed
        exact observed.2.symm
      · split at observed
        · simp only [turnAt, isOver.advanceTurn_eq, Reply.observed.injEq] at observed
          exact observed.2.symm
        · cases observed
  | _ => simp [answer] at observed

theorem progress_eq_of_mem_replies {news : News} {progress : Progress} {steps : List Step}
    (isOver : timeline.session.IsOver)
    (observed : .observed news progress ∈ timeline.replies stamp steps) :
    progress = timeline.session.channel.value := by
  induction steps generalizing timeline with
  | nil => simp [replies] at observed
  | cons step steps ih =>
      rcases List.mem_cons.1 observed with observed | observed
      · exact progress_eq_of_observed isOver observed.symm
      · have session_eq := session_step_of_isOver isOver stamp step
        rw [← session_eq] at isOver ⊢
        exact ih isOver observed

theorem state_step_of_started {step : Step} (started : timeline.reply stamp step = .started) :
    timeline.session.state = .idle ∧ (timeline.step stamp step).session.state = .running := by
  rcases Timeline.reply_eq_started_iff.1 started with ⟨rfl, owned, no_error⟩
  cases state_eq : timeline.session.state with
  | idle =>
      have timer_available : timeline.hasTimer = true := by
        simpa [Session.startError?, state_eq] using no_error
      refine ⟨rfl, ?_⟩
      simp [Timeline.step, isPossible, owned, take, Session.start, state_eq, timer_available,
        Session.publish]
  | running => simp [Session.startError?, state_eq] at no_error
  | stopped => simp [Session.startError?, state_eq] at no_error

theorem state_ne_idle_step (not_idle : timeline.session.state ≠ .idle) (step : Step) :
    (timeline.step stamp step).session.state ≠ .idle := by
  have rank_le : timeline.session.state.rank ≤ (timeline.step stamp step).session.state.rank :=
    (leads_step timeline stamp step).progress_leads.rank_le
  intro isIdle
  rw [isIdle] at rank_le
  exact not_idle (Progress.state_eq_of_rank_eq (Nat.le_zero.1 rank_le))

/-- A session that is not idle any more is not started, and one that is is started at most once. -/
theorem count_started_replies_le (timeline : Timeline) (stamp : Nat → Instant)
    (steps : List Step) :
    (timeline.replies stamp steps).count .started ≤
      if timeline.session.state = .idle then 1 else 0 := by
  induction steps generalizing timeline with
  | nil => simp [replies]
  | cons step steps ih =>
      have later := ih (timeline.step stamp step)
      rw [replies, List.count_cons]
      by_cases started : timeline.reply stamp step = .started
      · rcases state_step_of_started started with ⟨isIdle, isRunning⟩
        simp only [isRunning, reduceCtorEq, if_false] at later
        simp only [started, isIdle, if_true, beq_self_eq_true]
        omega
      · simp only [beq_iff_eq, started, if_false, Nat.add_zero]
        by_cases isIdle : timeline.session.state = .idle
        · rw [if_pos isIdle]
          exact later.trans (by split_ifs <;> omega)
        · rw [if_neg isIdle]
          rwa [if_neg (state_ne_idle_step isIdle step)] at later

/-- A session that has been given up by its owner is stopped already. -/
theorem session_step_of_ending {ending : Step} (isEnding : ending ∈ [Step.stop, Step.drop])
    (isStopped : timeline.isDropped → timeline.session.state = .stopped) :
    (timeline.step stamp ending).session = timeline.session.stop := by
  simp only [List.mem_cons, List.not_mem_nil, or_false] at isEnding
  by_cases isDropped : timeline.isDropped
  · have stop_eq : timeline.session.stop = timeline.session := by
      simp only [Session.stop, isStopped isDropped, if_true]
    rw [stop_eq]
    rcases isEnding with rfl | rfl <;> simp [Timeline.step, isPossible, isDropped]
  · rcases isEnding with rfl | rfl <;> simp [Timeline.step, isPossible, isDropped, take]

theorem seen_step_of_ending {ending : Step} (isEnding : ending ∈ [Step.stop, Step.drop]) :
    (timeline.step stamp ending).seen = timeline.seen := by
  simp only [List.mem_cons, List.not_mem_nil, or_false] at isEnding
  rcases isEnding with rfl | rfl <;> simp only [Timeline.step] <;> split_ifs <;> rfl

end Timeline

/--
After a session is stopped or given up by its owner, whatever was done before and is done later, its
feed and its count of deliveries are those from just before, and it is stopped with nothing to come.
The progress that its followers read is this one, and nothing is published any more: not by a line
that was due already, not by a further stop. It refuses to start again, and of all starts in a run
at most one succeeds.
-/
theorem Session.ending_is_final {script : Script} {config : PlaybackConfig} {session : Session}
    (created : Session.create script config = .ok session) (stamp : Nat → Instant)
    (hasTimer : Bool) (window : Window) (steps : List Timeline.Step) :
    let timeline := (Timeline.ofSession session hasTimer window).afterAll stamp steps
    let final : Progress := ⟨.stopped, timeline.session.progress.delivered, 0⟩
    (∀ ending ∈ [Timeline.Step.stop, Timeline.Step.drop], ∀ later,
      let stopped := timeline.step stamp ending
      let after := stopped.afterAll stamp later
      after.session.snapshot = timeline.session.snapshot ∧
      after.session.progress = final ∧
      after.session.channel = ⟨final, stopped.session.channel.version⟩ ∧
      (∀ news progress, .observed news progress ∈ stopped.replies stamp later →
        progress = final) ∧
      (∀ line, after.session.deliver stamp line = after.session) ∧
      (after.isDropped = false → after.reply stamp .start = .refused .alreadyStopped) ∧
      (∀ again ∈ [Timeline.Step.stop, Timeline.Step.drop],
        (after.step stamp again).session = after.session ∧
        (after.step stamp again).seen = after.seen)) ∧
    ((Timeline.ofSession session hasTimer window).replies stamp steps).count .started ≤ 1 := by
  intro timeline final
  rcases Session.isFresh_of_create created with ⟨isFresh, -, published, -⟩
  let history := (History.ofSession session hasTimer window).afterAll stamp steps
  have sound : history.Sound stamp :=
    (History.sound_ofSession isFresh hasTimer window).afterAll steps
  have timeline_eq : history.timeline = timeline := History.timeline_afterAll _ steps
  refine ⟨?_, ?_⟩
  · intro ending isEnding later stopped after
    have stopped_eq : stopped.session = timeline.session.stop := by
      apply Timeline.session_step_of_ending isEnding
      rw [← timeline_eq]
      exact sound.isStopped
    have isOver : stopped.session.IsOver := by
      rw [stopped_eq, ← timeline_eq]
      exact sound.course.stop.isOver (Session.state_stop _)
    have after_eq : after.session = stopped.session :=
      Timeline.session_afterAll_of_isOver isOver later
    have final_eq : stopped.session.progress = final := by
      rw [isOver.progress_eq, stopped_eq, Session.delivered_stop]
      rfl
    have channel_eq : stopped.session.channel.value = final := by
      rw [← final_eq, stopped_eq]
      exact ((Timeline.leads_afterAll _ stamp steps).trans
        (Session.leads_stop timeline.session)).published published
    refine ⟨?_, ?_, ?_, ?_, ?_, ?_, ?_⟩
    · rw [after_eq, stopped_eq, Session.snapshot_stop]
    · rw [after_eq, final_eq]
    · rw [after_eq, ← channel_eq]
    · intro news progress observed
      rw [← channel_eq]
      exact Timeline.progress_eq_of_mem_replies isOver observed
    · rw [after_eq]
      exact isOver.deliver_eq
    · intro owned
      have refused : after.session.startError? after.hasTimer = some .alreadyStopped := by
        rw [after_eq]
        exact isOver.startError?_eq after.hasTimer
      simp [Timeline.reply, Timeline.isPossible, owned, Timeline.answer, refused]
    · intro again isEnding
      rw [← after_eq] at isOver
      exact ⟨Timeline.session_step_of_isOver isOver stamp again,
        Timeline.seen_step_of_ending isEnding⟩
  · refine (Timeline.count_started_replies_le _ stamp steps).trans ?_
    split_ifs <;> omega

/-- A line that is due at the start but has not been delivered when the session is stopped. -/
theorem Session.ending_is_final_before_due_line :
    let script : Script := ⟨["ready"], [⟨"late", 0⟩]⟩
    ∃ session, Session.create script .standard = .ok session ∧
      ((((Timeline.ofSession session true (.create .plain false)).afterAll (fun _ => .epoch)
        [.start]).step (fun _ => .epoch) .stop).afterAll (fun _ => .epoch)
          [.advance 5000, .start]).session.snapshot = [.ofText "ready" .epoch] := by
  intro script
  have created : Session.create script .standard = .ok _ := rfl
  refine ⟨_, created, ?_⟩
  rcases Session.ending_is_final created (fun _ => .epoch) true (.create .plain false)
    [.start] with ⟨final, -⟩
  rcases final .stop (by decide) [.advance 5000, .start] with ⟨snapshot_eq, -⟩
  exact snapshot_eq.trans (by decide +kernel)

end ScriptedFeed
