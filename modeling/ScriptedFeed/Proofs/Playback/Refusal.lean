import ScriptedFeed.Proofs.Playback.Ending
import ScriptedFeed.Proofs.Playback.Followers

/-!
# What a start that fails leaves behind

A session that runs or has been stopped refuses to start and is left as it is, with its clock, its
followers and its schedule, so that nothing which is done later can tell whether the start was ever
tried. Only a session that has not started yet is changed by a start that fails, which it does where
there is no timer. The session is then over before any line has entered its feed, and its followers
have one publication to read.
-/

namespace ScriptedFeed

variable {stamp : Nat → Instant}

namespace Session

variable {session : Session} {start? until? : Option Nat}

theorem startError?_of_running (isRunning : session.state = .running) (hasTimer : Bool) :
    session.startError? hasTimer = some .alreadyRunning := by
  simp only [startError?, isRunning]

theorem startError?_of_stopped (isStopped : session.state = .stopped) (hasTimer : Bool) :
    session.startError? hasTimer = some .alreadyStopped := by
  simp only [startError?, isStopped]

theorem startError?_without_timer (isIdle : session.state = .idle) :
    session.startError? false = some .timerUnavailable := by
  simp [startError?, isIdle]

theorem state_start_without_timer (isIdle : session.state = .idle) (now : Nat) :
    (session.start stamp false now).state = .stopped := by
  simp [Session.start, isIdle, publish]

theorem channel_start_without_timer (isIdle : session.state = .idle) (now : Nat) :
    (session.start stamp false now).channel =
      session.channel.publish (session.start stamp false now).progress := by
  simp [Session.start, isIdle, publish, progress]

/-- Before it has started, a session that cannot start is over with an empty feed. -/
theorem Course.isOver_start_without_timer (course : session.Course stamp start? until?)
    (isIdle : session.state = .idle) (now : Nat) :
    (session.start stamp false now).IsOver ∧ (session.start stamp false now).IsFresh := by
  rcases course.isFresh_of_idle isIdle with ⟨isFresh, -⟩
  have stillFresh : (session.start stamp false now).IsFresh := isFresh.start_without_timer now
  exact ⟨⟨state_start_without_timer isIdle now, stillFresh.schedule?_eq⟩, stillFresh⟩

end Session

namespace Timeline

variable {timeline : Timeline}

/-- The timeline for someone who has a timer at hand, or has none. -/
def calledFrom (timeline : Timeline) (hasTimer : Bool) : Timeline :=
  { timeline with hasTimer }

theorem step_start_calledFrom (owned : timeline.isDropped = false) (hasTimer : Bool) :
    (timeline.calledFrom hasTimer).step stamp .start =
      { timeline with
        session := timeline.session.start stamp hasTimer timeline.now
        hasTimer } := by
  simp [calledFrom, Timeline.step, isPossible, owned, take]

theorem reply_start_of_error {error : PlaybackError} {hasTimer : Bool}
    (owned : timeline.isDropped = false)
    (refused : timeline.session.startError? hasTimer = some error) :
    (timeline.calledFrom hasTimer).reply stamp .start = .refused error := by
  simp [calledFrom, reply, isPossible, owned, answer, refused]

/-- The timeline after an attempt to start the session, by someone who has a timer or has none. -/
def afterAttempt (timeline : Timeline) (stamp : Nat → Instant) (hasTimer : Bool) : Timeline :=
  ((timeline.calledFrom hasTimer).step stamp .start).calledFrom timeline.hasTimer

theorem afterAttempt_eq (owned : timeline.isDropped = false) (hasTimer : Bool) :
    timeline.afterAttempt stamp hasTimer =
      { timeline with session := timeline.session.start stamp hasTimer timeline.now } := by
  rw [afterAttempt, step_start_calledFrom owned]
  rfl

/-- A start is refused, and nothing that is done or learnt later tells that it was tried. -/
def RefusesStart (timeline : Timeline) (stamp : Nat → Instant) (error : PlaybackError) : Prop :=
  ∀ hasTimer : Bool,
    (timeline.calledFrom hasTimer).reply stamp .start = .refused error ∧
    ∀ later,
      (timeline.afterAttempt stamp hasTimer).afterAll stamp later =
        timeline.afterAll stamp later ∧
      (timeline.afterAttempt stamp hasTimer).replies stamp later = timeline.replies stamp later

theorem refusesStart_of_not_idle {error : PlaybackError} (owned : timeline.isDropped = false)
    (not_idle : timeline.session.state ≠ .idle)
    (refused : ∀ hasTimer, timeline.session.startError? hasTimer = some error) :
    timeline.RefusesStart stamp error := by
  intro hasTimer
  have unchanged : timeline.afterAttempt stamp hasTimer = timeline := by
    simp only [afterAttempt_eq owned, Session.start_of_not_idle not_idle]
  constructor
  · exact reply_start_of_error owned (refused hasTimer)
  · intro later
    rw [unchanged]
    exact ⟨rfl, rfl⟩

theorem hasUnseen_of_lt {follower : Nat} (subscribed : follower < timeline.seen.length)
    (lt : timeline.seen[follower] < timeline.session.channel.version) :
    timeline.hasUnseen follower := by
  simp [hasUnseen, subscribed, Channel.hasUnseen, lt.ne]

end Timeline

theorem Audience.timeline_afterAll (audience : Audience) (steps : List Timeline.Step) :
    (audience.afterAll stamp steps).timeline = audience.timeline.afterAll stamp steps := by
  induction steps generalizing audience with
  | nil => rfl
  | cons step steps ih => exact ih (audience.step stamp step)

/-- No follower has seen a publication that has not been made yet. -/
theorem Audience.Sound.seen_le {audience : Audience} (sound : audience.Sound stamp)
    {follower : Nat} (subscribed : follower < audience.timeline.seen.length) :
    audience.timeline.seen[follower] ≤ audience.timeline.session.channel.version := by
  have has := sound.followed.get subscribed (sound.followed.length_eq ▸ subscribed)
  exact has.seen_le

/-- Without a timer, a start ends a session that has not started, and its followers can tell. -/
theorem Audience.Sound.ends_without_timer {audience : Audience} (sound : audience.Sound stamp)
    (owned : audience.timeline.isDropped = false)
    (isIdle : audience.timeline.session.state = .idle) :
    let attempted := audience.timeline.afterAttempt stamp false
    attempted.session.IsOver ∧ attempted.session.IsFresh ∧
      attempted.session.progress = ⟨.stopped, 0, 0⟩ ∧
      attempted.session.channel =
        ⟨⟨.stopped, 0, 0⟩, audience.timeline.session.channel.version + 1⟩ ∧
      attempted.seen = audience.timeline.seen ∧
      ∀ follower < audience.timeline.seen.length, attempted.hasUnseen follower := by
  intro attempted
  have attempted_eq : attempted =
      { audience.timeline with
        session := audience.timeline.session.start stamp false audience.timeline.now } :=
    Timeline.afterAttempt_eq owned false
  have over_and_fresh : attempted.session.IsOver ∧ attempted.session.IsFresh := by
    rcases sound.reached with ⟨history, history_sound, history_eq⟩
    have course := history_sound.course
    rw [history_eq] at course
    rw [attempted_eq]
    exact course.isOver_start_without_timer isIdle audience.timeline.now
  rcases over_and_fresh with ⟨isOver, isFresh⟩
  have progress_eq : attempted.session.progress = ⟨.stopped, 0, 0⟩ := by
    rw [isOver.progress_eq, isFresh.delivered_eq]
  have channel_eq : attempted.session.channel =
      ⟨⟨.stopped, 0, 0⟩, audience.timeline.session.channel.version + 1⟩ := by
    rw [← progress_eq, attempted_eq]
    exact Session.channel_start_without_timer isIdle audience.timeline.now
  have seen_eq : attempted.seen = audience.timeline.seen := by
    rw [attempted_eq]
  refine ⟨isOver, isFresh, progress_eq, channel_eq, seen_eq, ?_⟩
  intro follower subscribed
  apply Timeline.hasUnseen_of_lt (seen_eq ▸ subscribed)
  simp only [seen_eq, channel_eq]
  exact Nat.lt_succ_of_le (sound.seen_le subscribed)

/--
Whatever was done before, a session that runs or is stopped refuses a further start, and everything
that can be done and learnt later is the same as without it. A session that has not started and has
no timer to start with is over: nothing is in its feed, nothing has been delivered or is still to
come, and this is published once, so that every follower has it to read.
-/
theorem Timeline.failed_start_has_no_side_effect {script : Script} {config : PlaybackConfig}
    {session : Session} (created : Session.create script config = .ok session)
    (stamp : Nat → Instant) (hasTimer : Bool) (window : Window) (steps : List Timeline.Step) :
    let timeline := (Timeline.ofSession session hasTimer window).afterAll stamp steps
    timeline.isDropped = false →
    (timeline.session.state = .running → timeline.RefusesStart stamp .alreadyRunning) ∧
    (timeline.session.state = .stopped → timeline.RefusesStart stamp .alreadyStopped) ∧
    (timeline.session.state = .idle →
      let attempted := timeline.afterAttempt stamp false
      (timeline.calledFrom false).reply stamp .start = .refused .timerUnavailable ∧
      attempted.session.snapshot = [] ∧
      attempted.session.progress = ⟨.stopped, 0, 0⟩ ∧
      attempted.session.channel =
        ⟨⟨.stopped, 0, 0⟩, timeline.session.channel.version + 1⟩ ∧
      attempted.seen = timeline.seen ∧
      (∀ follower < timeline.seen.length, attempted.hasUnseen follower) ∧
      ∀ later, (attempted.afterAll stamp later).session = attempted.session) := by
  intro timeline owned
  rcases Session.isFresh_of_create created with ⟨isFresh, -, published, -⟩
  refine ⟨?_, ?_, ?_⟩
  · intro isRunning
    apply refusesStart_of_not_idle owned (by simp [isRunning])
    exact Session.startError?_of_running isRunning
  · intro isStopped
    apply refusesStart_of_not_idle owned (by simp [isStopped])
    exact Session.startError?_of_stopped isStopped
  · intro isIdle attempted
    let audience := (Audience.ofSession session hasTimer window).afterAll stamp steps
    have sound : audience.Sound stamp :=
      (Audience.sound_ofSession isFresh published hasTimer window).afterAll steps
    have timeline_eq : audience.timeline = timeline := Audience.timeline_afterAll _ steps
    have ends := sound.ends_without_timer (timeline_eq ▸ owned) (timeline_eq ▸ isIdle)
    rw [timeline_eq] at ends
    rcases ends with ⟨isOver, isFresh, progress_eq, channel_eq, seen_eq, unseen⟩
    refine ⟨?_, isFresh.lines_eq, progress_eq, channel_eq, seen_eq, unseen, ?_⟩
    · exact reply_start_of_error owned (Session.startError?_without_timer isIdle)
    · intro later
      exact session_afterAll_of_isOver isOver later

/-- A second start while a line is due and a follower has the first one to read. -/
theorem Timeline.failed_start_has_no_side_effect_while_running :
    let script : Script := ⟨["ready"], [⟨"first", 0⟩, ⟨"second", 2000⟩]⟩
    ∃ session, Session.create script .standard = .ok session ∧
      let timeline := (Timeline.ofSession session true (.create .plain false)).afterAll
        (fun _ => .epoch) [.subscribe, .start]
      timeline.session.progress = ⟨.running, 0, 2⟩ ∧
      (timeline.calledFrom false).reply (fun _ => .epoch) .start = .refused .alreadyRunning ∧
      (timeline.afterAttempt (fun _ => .epoch) false).replies (fun _ => .epoch)
          [.observe 0, .advance 1000, .render] =
        timeline.replies (fun _ => .epoch) [.observe 0, .advance 1000, .render] := by
  intro script
  have created : Session.create script .standard = .ok _ := rfl
  refine ⟨_, created, rfl, ?_⟩
  rcases Timeline.failed_start_has_no_side_effect created (fun _ => .epoch) true
    (.create .plain false) [.subscribe, .start] rfl with ⟨refuses, -, -⟩
  rcases refuses rfl false with ⟨refused, continues⟩
  exact ⟨refused, (continues [.observe 0, .advance 1000, .render]).2⟩

end ScriptedFeed
