import ScriptedFeed.Proofs.Playback.Content

/-!
# What a script tells of its playback

Before a script is played it can be seen whether its lines will come in the order in which they were
authored, and how long they will take. The first is decided from neighbouring lines alone: if none
of them is due before the one above it, the order of delivery, which moves no lines with equal
delays past each other, is the authored one. The second is the longest delay, as it is the last one
to be over at every speed.
-/

namespace ScriptedFeed

variable {stamp : Nat → Instant}

section Order

variable {lines : List ScheduledLine}

theorem isInOrder_iff : isInOrder lines ↔ lines.Pairwise fun line other => line.isDueBy other := by
  fun_induction isInOrder lines with
  | case1 => simp
  | case2 line => simp
  | case3 line next rest ih =>
      rw [Bool.and_eq_true, ih]
      constructor
      · rintro ⟨before, sorted⟩
        apply List.Pairwise.cons _ sorted
        intro other other_mem
        rcases List.mem_cons.1 other_mem with rfl | behind
        · exact before
        · apply ScheduledLine.isDueBy_trans line next other before
          exact List.rel_of_pairwise_cons sorted behind
      · intro sorted
        exact ⟨List.rel_of_pairwise_cons sorted List.mem_cons_self, sorted.of_cons⟩

theorem Script.isMonotonic_iff (script : Script) :
    script.isMonotonic ↔ script.deliveryOrder = script.scheduled := by
  rw [Script.isMonotonic, isInOrder_iff, Script.deliveryOrder]
  constructor
  · intro sorted
    exact List.mergeSort_of_pairwise sorted
  · intro same
    rw [← same]
    exact ScheduledLine.pairwise_mergeSort script.scheduled

end Order

section Duration

variable {delays : List UInt64} {least bound : UInt64}

theorem foldl_max_le_iff :
    delays.foldl max least ≤ bound ↔ least ≤ bound ∧ ∀ delay ∈ delays, delay ≤ bound := by
  induction delays generalizing least with
  | nil => simp
  | cons delay delays ih =>
      rw [List.foldl_cons, ih, List.forall_mem_cons, ← and_assoc]
      apply and_congr_left
      intro _
      rw [UInt64.max_def]
      split_ifs with le
      · constructor
        · intro delay_le
          exact ⟨UInt64.le_trans le delay_le, delay_le⟩
        · exact And.right
      · constructor
        · intro least_le
          exact ⟨least_le, UInt64.le_trans (UInt64.le_of_lt (UInt64.not_le.1 le)) least_le⟩
        · exact And.left

theorem foldl_max_mem : delays.foldl max least = least ∨ delays.foldl max least ∈ delays := by
  induction delays generalizing least with
  | nil => simp
  | cons delay delays ih =>
      rw [List.foldl_cons]
      rcases @ih (max least delay) with isFirst | isLater
      · rw [isFirst, UInt64.max_def]
        split_ifs
        · simp
        · simp
      · exact .inr (List.mem_cons_of_mem _ isLater)

variable {script : Script} {line : ScheduledLine}

theorem Script.delay_le_duration (line_mem : line ∈ script.scheduled) :
    line.delay ≤ script.duration := by
  have bounds := foldl_max_le_iff.1 (UInt64.le_refl script.duration)
  exact bounds.2 line.delay (List.mem_map_of_mem line_mem)

theorem Script.exists_delay_eq_duration (not_empty : script.scheduled ≠ []) :
    ∃ line ∈ script.scheduled, line.delay = script.duration := by
  rcases @foldl_max_mem (script.scheduled.map ScheduledLine.delay) 0 with isZero | isDelay
  · rcases List.exists_mem_of_ne_nil _ not_empty with ⟨line, line_mem⟩
    have delay_le := Script.delay_le_duration line_mem
    refine ⟨line, line_mem, ?_⟩
    apply UInt64.le_antisymm delay_le
    rw [Script.duration, isZero]
    exact UInt64.zero_le
  · rw [← Script.duration] at isDelay
    simpa using isDelay

/-- All lines are due as soon as the one with the longest delay is. -/
theorem Script.all_due_iff (not_empty : script.scheduled ≠ []) (speed : Speed) (start now : Nat) :
    (∀ line ∈ script.scheduled, start + speed.scaledTicks line.delay ≤ now) ↔
      start + speed.scaledTicks script.duration ≤ now := by
  constructor
  · intro all_due
    rcases Script.exists_delay_eq_duration not_empty with ⟨line, line_mem, delay_eq⟩
    rw [← delay_eq]
    exact all_due line line_mem
  · intro last_due line line_mem
    have ticks_le := speed.scaledTicks_mono (Script.delay_le_duration line_mem)
    omega

end Duration

theorem PlaybackConfig.playedSpeed_clamped (config : PlaybackConfig) :
    config.clamped.playedSpeed = config.playedSpeed := by
  have slowest_le := config.playedSpeed.slowest_le
  have le_fastest := config.playedSpeed.le_fastest
  simp only [clamped, playedSpeed, Speed.toNumber, Speed.clamp] at *
  rw [dif_pos slowest_le, dif_pos le_fastest]

namespace Session

variable {session : Session} {start now : Nat}

section Notices

/-- What is reported when the order of delivery is not the authored one. -/
def orderNotice : Notice :=
  ⟨.warn, source, "Script delays are not in order; lines will appear in delay order"⟩

theorem level_of_mem_appendAllNotices {buffer : Buffer} {lines : List FeedLine} {notice : Notice}
    (notice_mem : notice ∈ appendAllNotices buffer lines) : notice.level = .debug := by
  induction lines generalizing buffer with
  | nil => simp [appendAllNotices] at notice_mem
  | cons line lines ih =>
      rw [appendAllNotices, List.mem_append] at notice_mem
      rcases notice_mem with first_mem | later_mem
      · rw [Buffer.appendNotices] at first_mem
        split at first_mem
        · rw [List.mem_singleton.1 first_mem]
        · simp at first_mem
      · exact ih later_mem

theorem level_armNotice (lines : List ScheduledLine) (speed : Speed) :
    (Schedule.armNotice lines speed).level = .debug :=
  rfl

theorem level_startedNotice (session : Session) : session.startedNotice.level = .info :=
  rfl

theorem orderNotices_eq (session : Session) : session.orderNotices =
    if session.script.deliveryOrder = session.script.scheduled then [] else [orderNotice] := by
  simp only [orderNotices, Script.isMonotonic_iff]
  rfl

/-- Of what is reported during a first start, only the order of the lines can be a warning. -/
theorem warnings_startNotices (isIdle : session.state = .idle) (hasTimer : Bool) :
    (session.startNotices stamp hasTimer).filter (fun notice => notice.level = .warn) =
      if session.script.deliveryOrder = session.script.scheduled then [] else [orderNotice] := by
  have order_warnings : session.orderNotices.filter (fun notice => notice.level = .warn) =
      session.orderNotices := by
    rw [List.filter_eq_self, orderNotices_eq]
    intro notice notice_mem
    split_ifs at notice_mem
    · simp at notice_mem
    · rw [List.mem_singleton.1 notice_mem]
      rfl
  have append_warnings (lines : List FeedLine) :
      (appendAllNotices session.buffer lines).filter (fun notice => notice.level = .warn) = [] := by
    rw [List.filter_eq_nil_iff]
    intro notice notice_mem
    simp [level_of_mem_appendAllNotices notice_mem]
  rw [← orderNotices_eq]
  simp only [startNotices, isIdle]
  cases hasTimer with
  | false => exact order_warnings
  | true =>
      simp [order_warnings, append_warnings, level_armNotice, level_startedNotice]

end Notices

section Exhausted

theorem length_filter_eq_iff {lines : List ScheduledLine} {dueTick : ScheduledLine → Nat} :
    (lines.filter fun line => (some now).any fun tick => dueTick line ≤ tick).length =
      lines.length ↔ ∀ line ∈ lines, dueTick line ≤ now := by
  rw [List.length_filter_eq_length_iff]
  simp

/-- A session that plays is exhausted as soon as all its lines are due. -/
theorem Course.isExhausted_iff (course : session.Course stamp (some start) (some now))
    (isRunning : session.state = .running) : session.progress.isExhausted ↔
      ∀ line ∈ session.script.scheduled, session.dueTick start line ≤ now := by
  have perm : session.script.deliveryOrder.Perm session.script.scheduled :=
    List.mergeSort_perm _ _
  have delivered_eq : session.delivered = (session.deliveredBy start (some now)).length :=
    course.content_of_some.2
  have delivered_le : session.delivered ≤ session.script.deliveryOrder.length := by
    rw [delivered_eq]
    exact List.length_filter_le _ _
  have exhausted_iff : session.progress.isExhausted ↔
      session.delivered = session.script.deliveryOrder.length := by
    simp only [progress, Progress.isExhausted, isRunning, reduceCtorEq, if_false, ne_eq,
      not_false_eq_true, decide_true, Bool.and_true, decide_eq_true_eq, ← perm.length_eq]
    omega
  rw [exhausted_iff, delivered_eq, deliveredBy, length_filter_eq_iff]
  apply forall_congr'
  intro line
  rw [perm.mem_iff]

theorem dueTick_of_clamped {config : PlaybackConfig} (config_eq : session.config = config.clamped) :
    session.dueTick start = fun line => start + config.playedSpeed.scaledTicks line.delay := by
  funext line
  rw [dueTick, config_eq, PlaybackConfig.playedSpeed_clamped]

end Exhausted

end Session

namespace History

/--
A script is in order exactly if its order of delivery is the authored one, and if it is not, the
first attempt to start a session of it warns of this, and of nothing else. If it has scheduled
lines, a session that plays it is exhausted after an advance of the clock exactly if the longest
delay, at the speed that is played, is over since the start.
-/
theorem order_and_duration_are_told {script : Script} {config : PlaybackConfig} {session : Session}
    (created : Session.create script config = .ok session) (stamp : Nat → Instant)
    (hasTimer : Bool) (window : Window) (steps : List Timeline.Step) :
    let history := (ofSession session hasTimer window).afterAll stamp steps
    let timeline := history.timeline
    (script.isMonotonic ↔ script.deliveryOrder = script.scheduled) ∧
    (timeline.session.state = .idle →
      (timeline.notices stamp .start).filter (fun notice => notice.level = .warn) =
        if script.deliveryOrder = script.scheduled then [] else [Session.orderNotice]) ∧
    (script.scheduled ≠ [] → ∀ start ∈ history.startedAt?, timeline.session.state = .running →
      ∀ milliseconds,
        let advanced := timeline.step stamp (.advance milliseconds)
        advanced.now = timeline.now + milliseconds ∧
        (advanced.session.progress.isExhausted ↔
          start + config.playedSpeed.scaledTicks script.duration ≤ advanced.now)) := by
  intro history timeline
  rcases Session.isFresh_of_create created with ⟨isFresh, -, -, script_eq, config_eq, -⟩
  have sound : history.Sound stamp := (sound_ofSession isFresh hasTimer window).afterAll steps
  have leads : session.Leads timeline.session :=
    leads_afterAll (ofSession session hasTimer window) stamp steps
  refine ⟨script.isMonotonic_iff, ?_, ?_⟩
  · intro isIdle
    have warnings := @Session.warnings_startNotices stamp _ isIdle timeline.hasTimer
    rwa [leads.script_eq, script_eq] at warnings
  · intro not_empty start started isRunning milliseconds advanced
    have after := sound.step (.advance milliseconds)
    have course := after.course
    have started_eq : (history.step stamp (.advance milliseconds)).startedAt? = some start := by
      rw [startedAt?_step_of_ne (by simp)]
      exact started
    rw [started_eq, playedUntil?_step rfl isRunning, timeline_step] at course
    have advanced_running : advanced.session.state = .running :=
      (Session.state_advance _).trans isRunning
    have advanced_leads : session.Leads advanced.session :=
      leads.trans (Timeline.leads_step timeline stamp (.advance milliseconds))
    refine ⟨rfl, ?_⟩
    rw [course.isExhausted_iff advanced_running, advanced_leads.script_eq, script_eq,
      Session.dueTick_of_clamped (advanced_leads.config_eq.trans config_eq)]
    exact Script.all_due_iff not_empty config.playedSpeed start advanced.now

/-- A session that is started late, of lines of which only the first is out of order. -/
theorem order_and_duration_are_told_of_late_line :
    let script : Script := ⟨[], [⟨"late", 2000⟩, ⟨"soon", 500⟩, ⟨"as soon", 500⟩]⟩
    ∃ session, Session.create script .standard = .ok session ∧
      let fresh := Timeline.ofSession session true (.create .plain false)
      let played := fresh.afterAll (fun _ => .epoch) [.advance 7, .start, .advance 600]
      (fresh.notices (fun _ => .epoch) .start).filter (fun notice => notice.level = .warn) =
        [Session.orderNotice] ∧
      ¬(played.step (fun _ => .epoch) (.advance 1399)).session.progress.isExhausted ∧
      (played.step (fun _ => .epoch) (.advance 1400)).session.progress.isExhausted := by
  intro script
  have created : Session.create script .standard = .ok _ := rfl
  refine ⟨_, created, ?_⟩
  intro fresh played
  rcases order_and_duration_are_told created (fun _ => .epoch) true (.create .plain false) [] with
    ⟨order_iff, warnings, -⟩
  rcases order_and_duration_are_told created (fun _ => .epoch) true (.create .plain false)
    [.advance 7, .start, .advance 600] with ⟨-, -, exhausted_iff⟩
  have isRunning : played.session.state = .running :=
    (Session.state_advance _).trans rfl
  have exhausted_iff := exhausted_iff (by simp [script]) 7 rfl isRunning
  have ticks_eq : PlaybackConfig.standard.playedSpeed.scaledTicks script.duration = 2000 := by
    decide +kernel
  rw [ticks_eq] at exhausted_iff
  refine ⟨?_, ?_, ?_⟩
  · have not_same : script.deliveryOrder ≠ script.scheduled := by
      rw [ne_eq, ← order_iff]
      decide
    have warned := warnings rfl
    rwa [if_neg not_same] at warned
  · exact mt (exhausted_iff 1399).2.1 (by decide)
  · exact (exhausted_iff 1400).2.2 (by decide)

end History

end ScriptedFeed
