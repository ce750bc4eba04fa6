import ScriptedFeed.Proofs.Playback.Refusal

/-!
# A follower that waits misses no delivery

The channel of a session keeps the last publication only, so that a follower which comes late sees
several of them as one. A follower that does nothing but wait comes late for none, if no two lines
are due at one tick: each waiting ends with the first publication that it has not seen, at the tick
of which nothing else is published. The count it reads goes up by one from each waiting to the next.

Only the start is published at a tick at which a line may be due as well. A follower that waits
reads of the start before that line is delivered, and finds the delivery when it waits again.
-/

namespace ScriptedFeed

variable {stamp : Nat → Instant}

/-- Where one turn is long enough, everything that is due is delivered in it. -/
theorem Schedule.advanceTurn_eq_advance {schedule : Schedule} {now : Nat}
    (few : (schedule.dueAt now).length ≤ turnLength) :
    schedule.dueInTurn now = schedule.dueAt now ∧
      schedule.advanceTurn now = schedule.advance now := by
  have turn_eq : schedule.dueInTurn now = schedule.dueAt now := List.take_of_length_le few
  refine ⟨turn_eq, ?_⟩
  simp only [advanceTurn, turn_eq, advance, dueAt]
  split_ifs with isCancelled
  · rfl
  · have left_eq : schedule.queue.drop (schedule.queue.takeWhile (isDueAt now)).length =
        schedule.queue.dropWhile (isDueAt now) := by
      nth_rewrite 2 [← List.takeWhile_append_dropWhile (p := isDueAt now) (l := schedule.queue)]
      exact List.drop_left
    rw [left_eq]

namespace Session

variable {session : Session} {start now : Nat} {done due later rest : List ScheduledLine}

theorem advanceTurn_eq_advance (few : (session.dueAt now).length ≤ Schedule.turnLength) :
    session.advanceTurn stamp now = session.advance stamp now := by
  cases schedule?_eq : session.schedule? with
  | none =>
      rw [advanceTurn_of_schedule?_eq_none schedule?_eq, advance_of_schedule?_eq_none schedule?_eq]
  | some schedule =>
      simp only [dueAt, schedule?_eq, List.length_map] at few
      rcases Schedule.advanceTurn_eq_advance few with ⟨turn_eq, advance_eq⟩
      simp only [advanceTurn, advance, dueAt, schedule?_eq, turn_eq, advance_eq, Option.map_some]

/-- Nothing is published at a tick at which nothing is due. -/
theorem channel_advance_of_dueAt_eq_nil (nothing_due : session.dueAt now = []) :
    (session.advance stamp now).channel = session.channel := by
  simp only [advance, nothing_due, List.foldl_nil]

namespace Plays

theorem dueAt_eq (plays : session.Plays stamp start done rest) (now : Nat) :
    session.dueAt now = rest.takeWhile fun line => session.dueTick start line ≤ now := by
  rcases plays.schedule?_eq with ⟨isDrained, schedule?_eq⟩
  simp only [Session.dueAt, schedule?_eq, dueAt_scheduleOf]

theorem nextDue?_eq {line : ScheduledLine} (plays : session.Plays stamp start done (line :: rest)) :
    session.nextDue? = some (session.dueTick start line) := by
  rcases plays.schedule?_eq with ⟨isDrained, schedule?_eq⟩
  simp [Session.nextDue?, schedule?_eq, Schedule.nextDue?, Schedule.next?, scheduleOf,
    Speed.delivery, dueTick]

theorem progress_eq (plays : session.Plays stamp start done rest) :
    session.progress = ⟨.running, done.length, rest.length⟩ := by
  have scheduled_length := plays.length_scheduled
  simp only [progress, plays.isRunning, reduceCtorEq, if_false, plays.delivered_eq,
    Progress.mk.injEq, true_and]
  omega

/--
Where no two lines to come are due at one tick, at most one of them is delivered at a tick that
none of them comes before, and one turn is enough for it.
-/
theorem advance_of_apart (plays : session.Plays stamp start done rest)
    (apart : rest.Pairwise fun line other =>
      session.dueTick start line < session.dueTick start other)
    (ahead : ∀ line ∈ rest, now ≤ session.dueTick start line) :
    ∃ due later, rest = due ++ later ∧ due.length ≤ 1 ∧ session.dueAt now = due ∧
      (session.advance stamp now).Plays stamp start (done ++ due) later ∧
      ∀ line ∈ later, now < session.dueTick start line := by
  rcases plays.advance now with ⟨due, later, rfl, advanced, due_le, later_not_due⟩
  refine ⟨due, later, rfl, ?_, ?_, advanced, later_not_due⟩
  · rcases due with _ | ⟨first, _ | ⟨second, due⟩⟩
    · simp
    · simp
    · have first_lt : session.dueTick start first < session.dueTick start second :=
        List.rel_of_pairwise_cons apart (by simp)
      have first_ge := ahead first (by simp)
      have second_le := due_le second (by simp)
      omega
  · rw [plays.dueAt_eq, List.takeWhile_append_of_pos (by simpa using due_le)]
    rcases later with _ | ⟨line, later⟩
    · simp
    · rw [List.takeWhile_cons_of_neg (by simpa using later_not_due line (by simp)),
        List.append_nil]

end Plays

end Session

namespace Timeline

variable {timeline : Timeline} {start follower : Nat} {done rest : List ScheduledLine}

/--
A follower that waits for a limited time is woken up in it: there is something that it has not seen,
or the next line, if there is one, is due before the limit comes.
-/
def WakesBefore (timeline : Timeline) (follower limit : Nat) : Prop :=
  ¬timeline.hasUnseen follower →
    ∀ tick ∈ timeline.session.nextDue?, tick < timeline.now + limit

/-- The count of deliveries that a follower reads when it is woken up next. -/
def countAwaited (timeline : Timeline) (follower : Nat) : Nat :=
  if timeline.hasUnseen follower then timeline.session.delivered
  else timeline.session.delivered + 1

/--
The session plays lines of which no two are due at one tick, and none is due before now; a follower
that has seen the last publication has no line to expect at this tick any more.
-/
structure Attends (timeline : Timeline) (stamp : Nat → Instant) (start follower : Nat)
    (done rest : List ScheduledLine) : Prop where
  plays : timeline.session.Plays stamp start done rest
  published : timeline.session.channel.value = timeline.session.progress
  owned : timeline.isDropped = false
  subscribed : follower < timeline.seen.length
  apart : rest.Pairwise fun line other =>
    timeline.session.dueTick start line < timeline.session.dueTick start other
  ahead : ∀ line ∈ rest, timeline.now ≤ timeline.session.dueTick start line
  ahead_of_seen : ¬timeline.hasUnseen follower →
    ∀ line ∈ rest, timeline.now < timeline.session.dueTick start line

namespace Attends

theorem awaited_eq (attends : timeline.Attends stamp start follower done rest) :
    timeline.awaited = .observed .unseen ⟨.running, timeline.session.delivered, rest.length⟩ := by
  rw [awaited, attends.published, attends.plays.progress_eq, attends.plays.delivered_eq]

/-- What follows a delivery at a tick that no line to come is due before. -/
theorem deliverAt (attends : timeline.Attends stamp start follower done rest) {tick : Nat}
    (ahead : ∀ line ∈ rest, tick ≤ timeline.session.dueTick start line) :
    ∃ due later, rest = due ++ later ∧ due.length ≤ 1 ∧ timeline.session.dueAt tick = due ∧
      (∀ line ∈ later, tick < timeline.session.dueTick start line) ∧
      ∀ seen : List Nat, follower < seen.length →
        { timeline with now := tick, session := timeline.session.advance stamp tick, seen }.Attends
          stamp start follower (done ++ due) later := by
  rcases attends.plays.advance_of_apart attends.apart ahead with
    ⟨due, later, rest_eq, few, dueAt_eq, advanced, later_not_due⟩
  have leads := Session.leads_advance timeline.session stamp tick
  have dueTick_eq : (timeline.session.advance stamp tick).dueTick start =
      timeline.session.dueTick start := Session.dueTick_eq_of_config_eq leads.config_eq
  have apart : later.Pairwise fun line other =>
      timeline.session.dueTick start line < timeline.session.dueTick start other := by
    have all_apart := attends.apart
    rw [rest_eq] at all_apart
    exact (List.pairwise_append.1 all_apart).2.1
  refine ⟨due, later, rest_eq, few, dueAt_eq, later_not_due, fun seen subscribed =>
    ⟨advanced, leads.published attends.published, attends.owned, subscribed, ?_, ?_, ?_⟩⟩
  · rwa [dueTick_eq]
  · rw [dueTick_eq]
    exact fun line line_mem => (later_not_due line line_mem).le
  · rw [dueTick_eq]
    exact fun _ => later_not_due

/-- After a follower has read the last publication, what is due at the tick is delivered. -/
theorem read (attends : timeline.Attends stamp start follower done rest) :
    let after := (timeline.markSeen follower).advanceTo stamp timeline.now
    ∃ done rest, after.Attends stamp start follower done rest ∧
      after.countAwaited follower = timeline.session.delivered + 1 := by
  intro after
  rcases attends.deliverAt attends.ahead with ⟨due, later, -, few, dueAt_eq, -, attends_after⟩
  have after_attends : after.Attends stamp start follower (done ++ due) later :=
    attends_after _ (by simpa [markSeen] using attends.subscribed)
  refine ⟨_, _, after_attends, ?_⟩
  have leads : timeline.session.Leads after.session :=
    Session.leads_advance timeline.session stamp timeline.now
  have delivered_eq : after.session.delivered = timeline.session.delivered + due.length := by
    rw [after_attends.plays.delivered_eq, attends.plays.delivered_eq, List.length_append]
  have unseen_eq : after.hasUnseen follower =
      decide (timeline.session.channel.version ≠ after.session.channel.version) := by
    simp [after, hasUnseen, advanceTo, markSeen, attends.subscribed, Channel.hasUnseen]
  -- The follower has something to read again if a line was due, and nothing otherwise.
  rcases due with _ | ⟨line, due⟩
  · have channel_eq : after.session.channel = timeline.session.channel :=
      Session.channel_advance_of_dueAt_eq_nil dueAt_eq
    simp [countAwaited, unseen_eq, channel_eq, delivered_eq]
  · have due_one : (line :: due).length = 1 := le_antisymm few (by simp)
    have version_lt := leads.version_lt (by omega)
    have unseen : after.hasUnseen follower := by
      rw [unseen_eq]
      exact decide_eq_true version_lt.ne
    rw [countAwaited, if_pos unseen, delivered_eq, due_one]

/-- The next line is delivered alone, in one turn. -/
theorem turn {line : ScheduledLine}
    (attends : timeline.Attends stamp start follower done (line :: rest)) :
    (timeline.turnAt stamp (timeline.session.dueTick start line)).Attends stamp start follower
      (done ++ [line]) rest := by
  have ahead : ∀ other ∈ line :: rest,
      timeline.session.dueTick start line ≤ timeline.session.dueTick start other := by
    intro other other_mem
    rcases List.mem_cons.1 other_mem with rfl | other_mem
    · exact le_rfl
    · exact (List.rel_of_pairwise_cons attends.apart other_mem).le
  rcases attends.deliverAt ahead with ⟨due, later, rest_eq, few, dueAt_eq, not_due, attends_after⟩
  have turn_eq : timeline.session.advanceTurn stamp (timeline.session.dueTick start line) =
      timeline.session.advance stamp (timeline.session.dueTick start line) := by
    apply Session.advanceTurn_eq_advance
    rw [dueAt_eq]
    exact few.trans (by decide)
  rcases due with _ | ⟨first, _ | ⟨second, due⟩⟩
  · rw [List.nil_append] at rest_eq
    exact absurd (not_due line (by simp [← rest_eq])) (lt_irrefl _)
  · rw [List.singleton_append, List.cons.injEq] at rest_eq
    rcases rest_eq with ⟨rfl, rfl⟩
    simpa only [turnAt, turn_eq] using attends_after timeline.seen attends.subscribed
  · simp at few

/-- A follower that is woken up in time reads the count that it awaits, and awaits the next one. -/
theorem wait {limit : Nat} (attends : timeline.Attends stamp start follower done rest)
    (awaits : timeline.countAwaited follower ≤ timeline.session.script.scheduled.length)
    (wakes : timeline.WakesBefore follower limit) :
    timeline.reply stamp (.wait follower limit) =
        .observed .unseen ⟨.running, timeline.countAwaited follower,
          timeline.session.script.scheduled.length - timeline.countAwaited follower⟩ ∧
      ∃ done rest, (timeline.step stamp (.wait follower limit)).Attends stamp start follower done
          rest ∧
        (timeline.step stamp (.wait follower limit)).countAwaited follower =
          timeline.countAwaited follower + 1 := by
  have scheduled_length := attends.plays.length_scheduled
  have delivered_eq := attends.plays.delivered_eq
  simp only [reply, Timeline.step, isPossible, if_true, answer, take, waitReply, afterWait]
  by_cases unseen : timeline.hasUnseen follower
  · simp only [unseen, if_true, countAwaited]
    refine ⟨?_, attends.read⟩
    rw [attends.awaited_eq, scheduled_length, delivered_eq, Nat.add_sub_cancel_left]
  · simp only [countAwaited, unseen, Bool.false_eq_true, if_false, attends.owned] at awaits ⊢
    rcases rest with _ | ⟨line, rest⟩
    · simp only [List.length_nil] at scheduled_length
      omega
    · have due_lt := wakes unseen _ attends.plays.nextDue?_eq
      have now_lt := attends.ahead_of_seen unseen line (by simp)
      have wake_eq : timeline.wakeTick? limit = some (timeline.session.dueTick start line) := by
        simp [wakeTick?, attends.plays.nextDue?_eq, max_eq_right now_lt.le, due_lt]
      have turned := attends.turn
      have turned_delivered : (timeline.turnAt stamp
          (timeline.session.dueTick start line)).session.delivered =
            timeline.session.delivered + 1 := by
        rw [turned.plays.delivered_eq, delivered_eq, List.length_append, List.length_singleton]
      simp only [wake_eq]
      refine ⟨?_, ?_⟩
      · rw [turned.awaited_eq, turned_delivered, scheduled_length, delivered_eq,
          List.length_cons]
        congr 2
        omega
      · rcases turned.read with ⟨done, rest, attends_after, count_eq⟩
        exact ⟨done, rest, attends_after, by rw [← turned_delivered, ← count_eq]; rfl⟩

/-- A follower that does nothing but wait reads one count after the other. -/
theorem replies_wait (attends : timeline.Attends stamp start follower done rest)
    (limits : List Nat)
    (within : timeline.countAwaited follower + limits.length ≤
      timeline.session.script.scheduled.length + 1)
    (wakes : ∀ earlier limit later, limits = earlier ++ limit :: later →
      (timeline.afterAll stamp (earlier.map (.wait follower))).WakesBefore follower limit) :
    timeline.replies stamp (limits.map (.wait follower)) =
      (List.range' (timeline.countAwaited follower) limits.length).map fun count =>
        .observed .unseen
          ⟨.running, count, timeline.session.script.scheduled.length - count⟩ := by
  induction limits generalizing timeline done rest with
  | nil => rfl
  | cons limit limits ih =>
      rw [List.length_cons] at within
      rcases attends.wait (by omega) (wakes [] limit limits rfl) with
        ⟨reply_eq, done', rest', attends_after, count_eq⟩
      have script_eq := (leads_step timeline stamp (.wait follower limit)).script_eq
      have later := ih attends_after (by rw [count_eq, script_eq]; omega) <| by
        intro earlier next later limits_eq
        exact wakes (limit :: earlier) next later (by rw [limits_eq, List.cons_append])
      rw [count_eq, script_eq] at later
      rw [List.map_cons, replies, reply_eq, later, List.length_cons, List.range'_succ,
        List.map_cons]

end Attends

/-- A session that starts is attended by everyone who followed it before. -/
theorem attends_of_started {audience : Audience} (sound : audience.Sound stamp)
    (subscribed : follower < audience.timeline.seen.length)
    (started : audience.timeline.reply stamp .start = .started)
    (distinct : (audience.timeline.session.script.scheduled.map fun line =>
      audience.timeline.session.config.playedSpeed.scaledTicks line.delay).Nodup) :
    (audience.timeline.step stamp .start).Attends stamp audience.timeline.now follower []
        audience.timeline.session.script.deliveryOrder ∧
      (audience.timeline.step stamp .start).countAwaited follower = 0 := by
  let session := audience.timeline.session
  let now := audience.timeline.now
  rcases reply_eq_started_iff.1 started with ⟨-, owned, no_error⟩
  have isIdle : session.state = .idle := (state_step_of_started started).1
  have timer_available : audience.timeline.hasTimer = true := by
    simpa [Session.startError?, session, isIdle] using no_error
  have isFresh : session.IsFresh := by
    rcases sound.reached with ⟨history, history_sound, timeline_eq⟩
    have course := history_sound.course
    rw [timeline_eq] at course
    exact (course.isFresh_of_idle isIdle).1
  let after : Timeline := { audience.timeline with session := session.start stamp true now }
  have step_eq : audience.timeline.step stamp .start = after := by
    simp [Timeline.step, isPossible, owned, take, timer_available, session, now, after]
  have plays : after.session.Plays stamp now [] session.script.deliveryOrder :=
    isFresh.start stamp isIdle now
  have leads : session.Leads after.session := Session.leads_start session stamp true now
  have dueTick_eq : after.session.dueTick now = session.dueTick now :=
    Session.dueTick_eq_of_config_eq leads.config_eq
  have after_subscribed : follower < after.seen.length := subscribed
  have unseen : after.hasUnseen follower := by
    have version_eq : after.session.channel.version = session.channel.version + 1 := by
      simp [after, Session.start, isIdle, Session.publish, Channel.publish]
    apply hasUnseen_of_lt after_subscribed
    rw [version_eq]
    exact Nat.lt_succ_of_le (sound.seen_le subscribed)
  rw [step_eq]
  refine ⟨⟨plays, leads.published sound.published, owned, after_subscribed, ?_, ?_,
    fun seen => absurd unseen seen⟩, ?_⟩
  · have due_apart := plays.pairwise_dueTick
    have due_distinct : (session.script.deliveryOrder.map (session.dueTick now)).Nodup := by
      have all_distinct := distinct.map (add_right_injective now)
      rw [List.map_map] at all_distinct
      exact ((List.mergeSort_perm _ _).map _).nodup_iff.2 all_distinct
    rw [List.nodup_iff_pairwise_ne, List.pairwise_map] at due_distinct
    rw [dueTick_eq] at due_apart ⊢
    exact due_apart.imp₂ (fun _ _ => lt_of_le_of_ne) due_distinct
  · intro line _
    exact Nat.le_add_right ..
  · rw [countAwaited, if_pos unseen]
    exact plays.delivered_eq

end Timeline

/--
A follower that subscribed before a session starts and then only waits, each time for long enough,
reads one count of deliveries after the other, from none to all, if no two lines are due at one
tick. Long enough is a limit that comes after the tick at which the next line is due; where there is
something that the follower has not seen, any limit is.
-/
theorem Session.waiting_follower_misses_no_delivery {script : Script} {config : PlaybackConfig}
    {session : Session} (created : Session.create script config = .ok session)
    (stamp : Nat → Instant) (hasTimer : Bool) (window : Window) (steps : List Timeline.Step)
    (follower : Nat) (limits : List Nat) :
    let before := (Timeline.ofSession session hasTimer window).afterAll stamp steps
    let timeline := before.step stamp .start
    let total := script.scheduled.length
    (script.scheduled.map fun line =>
      session.config.playedSpeed.scaledTicks line.delay).Nodup →
    follower < before.seen.length →
    before.reply stamp .start = .started →
    limits.length = total + 1 →
    (∀ earlier limit later, limits = earlier ++ limit :: later →
      (timeline.afterAll stamp (earlier.map (.wait follower))).WakesBefore follower limit) →
    timeline.replies stamp (limits.map (.wait follower)) =
        (List.range (total + 1)).map (fun count =>
          .observed .unseen ⟨.running, count, total - count⟩) ∧
      ∀ count ≤ total,
        Progress.isExhausted ⟨.running, count, total - count⟩ = decide (count = total) := by
  intro before timeline total distinct subscribed started limits_length wakes
  rcases Session.isFresh_of_create created with ⟨isFresh, -, published, script_eq, -, -⟩
  let audience := (Audience.ofSession session hasTimer window).afterAll stamp steps
  have sound : audience.Sound stamp :=
    (Audience.sound_ofSession isFresh published hasTimer window).afterAll steps
  have before_eq : audience.timeline = before := Audience.timeline_afterAll _ steps
  have leads : session.Leads before.session :=
    Timeline.leads_afterAll (.ofSession session hasTimer window) stamp steps
  have before_script : before.session.script = script := leads.script_eq.trans script_eq
  have timeline_script : timeline.session.script = script :=
    (Timeline.leads_step before stamp .start).script_eq.trans before_script
  rw [← before_eq] at subscribed started
  have attended := Timeline.attends_of_started sound subscribed started (by
    rwa [before_eq, before_script, leads.config_eq])
  rw [before_eq] at attended
  rcases attended with ⟨attends, count_eq⟩
  refine ⟨?_, ?_⟩
  · have within : timeline.countAwaited follower + limits.length ≤
        timeline.session.script.scheduled.length + 1 := by
      rw [count_eq, limits_length, timeline_script, Nat.zero_add]
    rw [attends.replies_wait limits within wakes, count_eq, limits_length, timeline_script,
      List.range_eq_range']
  · intro count count_le
    simp only [Progress.isExhausted, ne_eq, reduceCtorEq, not_false_eq_true, decide_true,
      Bool.and_true, decide_eq_decide]
    omega

/-- A limit that comes at the very tick at which the next line is due comes first. -/
theorem Session.waiting_ends_at_due_tick :
    let script : Script := ⟨[], [⟨"late", 100⟩]⟩
    ∃ session, Session.create script .standard = .ok session ∧
      let before := (Timeline.ofSession session true (.create .plain false)).afterAll
        (fun _ => .epoch) [.subscribe]
      let timeline := before.step (fun _ => .epoch) .start
      (script.scheduled.map fun line =>
        session.config.playedSpeed.scaledTicks line.delay).Nodup ∧
      0 < before.seen.length ∧
      before.reply (fun _ => .epoch) .start = .started ∧
      (∀ earlier ∈ [[], [Timeline.Step.wait 0 100]],
        let waiting := timeline.afterAll (fun _ => .epoch) earlier
        ∀ tick ∈ waiting.session.nextDue?, tick ≤ waiting.now + 100) ∧
      timeline.replies (fun _ => .epoch) [.wait 0 100, .wait 0 100] =
        [.observed .unseen ⟨.running, 0, 1⟩, .timeout] := by
  intro script
  have created : Session.create script .standard = .ok _ := rfl
  exact ⟨_, created, by decide +kernel⟩

/-- A limit one tick later than that is long enough. -/
theorem Session.waiting_follower_misses_no_delivery_by_one_tick :
    let script : Script := ⟨[], [⟨"late", 100⟩]⟩
    ∃ session, Session.create script .standard = .ok session ∧
      ((Timeline.ofSession session true (.create .plain false)).afterAll (fun _ => .epoch)
        [.subscribe, .start]).replies (fun _ => .epoch) [.wait 0 0, .wait 0 101] =
        [.observed .unseen ⟨.running, 0, 1⟩, .observed .unseen ⟨.running, 1, 0⟩] := by
  intro script
  have created : Session.create script .standard = .ok _ := rfl
  refine ⟨_, created, ?_⟩
  refine (Session.waiting_follower_misses_no_delivery created (fun _ => .epoch) true
    (.create .plain false) [.subscribe] 0 [0, 101] (by decide +kernel) (by decide +kernel)
    (by decide +kernel) rfl ?_).1
  intro earlier limit later limits_eq
  rcases earlier with _ | ⟨first, _ | ⟨second, earlier⟩⟩
  · intro seen
    exact absurd (by decide +kernel) seen
  · obtain ⟨rfl, rfl, rfl⟩ : 0 = first ∧ 101 = limit ∧ [] = later := by simpa using limits_eq
    intro _
    decide +kernel
  · simp at limits_eq

end ScriptedFeed
