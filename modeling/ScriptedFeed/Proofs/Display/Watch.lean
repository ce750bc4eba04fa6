import ScriptedFeed.Display.Watch
import ScriptedFeed.Proofs.Display.Window
import ScriptedFeed.Proofs.Playback.Progress

/-!
# A watch loses nothing

The progress that a watch reads, the feed that it shows and the window's memory of the last line are
taken at three moments, and lines are delivered between any two of them. What carries the argument
is how the lines that have entered the feed since the last snapshot relate to the publication that
was read: if it is still the last one, there are no such lines. A watch that waits without an unseen
publication has therefore shown everything, and one that leaves has read that nothing is left to
come before it looked at the feed.
-/

namespace ScriptedFeed

namespace Session

variable {stamp : Nat → Instant} {session : Session} {start : Nat}
  {done rest : List ScheduledLine}

theorem Plays.snapshot_eq (plays : session.Plays stamp start done rest) :
    session.snapshot = (session.fed stamp done).rtake session.buffer.capacity.toNat :=
  plays.holdsNewest

theorem Plays.done_eq_take (plays : session.Plays stamp start done rest) :
    done = session.script.deliveryOrder.take session.delivered := by
  rw [plays.order_eq, plays.delivered_eq, List.take_left]

/-- Where the progress says that nothing is left to come, everything has been delivered. -/
theorem Plays.rest_eq_nil (plays : session.Plays stamp start done rest)
    (exhausted : session.progress.isExhausted) : rest = [] := by
  have counted := plays.length_scheduled
  simp only [Progress.isExhausted, progress, plays.isRunning, plays.delivered_eq, reduceCtorEq,
    if_false, Bool.and_eq_true, decide_eq_true_eq] at exhausted
  rw [← List.length_eq_zero_iff]
  omega

theorem Plays.version_lt_deliverNext {line : ScheduledLine}
    (plays : session.Plays stamp start done (line :: rest)) :
    session.channel.version < (session.deliverNext stamp).channel.version := by
  apply (leads_deliverNext session stamp).version_lt
  rw [plays.deliverNext.delivered_eq, plays.delivered_eq]
  simp

end Session

namespace Watch

variable {stamp : Nat → Instant} {watch : Watch} {start : Nat} {showsTime : Bool}
  {done rest : List ScheduledLine} {recent written : List FeedLine}

/-- The lines that the next step of the loop adds to the window. -/
def newlyShown (watch : Watch) : List FeedLine :=
  match watch.phase with
  | .showing _ => watch.window.newLines watch.session.snapshot
  | .reading | .deciding _ | .waiting | .left => []

theorem sent_eq (isPlain : watch.window.mode = .plain) :
    watch.sent = watch.newlyShown.flatMap watch.window.lineCommands := by
  simp only [sent, newlyShown]
  cases watch.phase <;> simp [Window.renderCommands, isPlain]

/--
What a watch can rely on in each of its phases, if some lines are to come and some have entered the
feed since it was shown.
-/
def Relies (watch : Watch) (rest : List ScheduledLine) (recent : List FeedLine) : Prop :=
  match watch.phase with
  | .reading => True
  | .showing progress => progress.isExhausted → rest = []
  | .deciding progress =>
      (watch.seen = watch.session.channel.version → recent = []) ∧
        (progress.isExhausted → rest = [] ∧ recent = [])
  | .waiting => watch.seen = watch.session.channel.version → recent = []
  | .left => rest = [] ∧ recent = []

/--
What is true of a watch from the start of the session on, if some lines have been delivered, some
are to come and some have been written.
-/
structure Sound (watch : Watch) (stamp : Nat → Instant) (start : Nat) (showsTime : Bool)
    (done rest : List ScheduledLine) (written : List FeedLine) : Prop where
  plays : watch.session.Plays stamp start done rest
  published : watch.session.channel.value = watch.session.progress
  seen_le : watch.seen ≤ watch.session.channel.version
  isPlain : watch.window.mode = .plain
  showsTime_eq : watch.window.showsTime = showsTime
  /-- The lines that entered the feed are those that had by the last snapshot and those since. -/
  shown : (watch.session.fed stamp done).Nodup → ∃ old recent,
    watch.session.fed stamp done = old ++ recent ∧
      watch.window.HasShown watch.session.buffer.capacity.toNat old written ∧
      watch.Relies rest recent

/-- A delivery between any two steps of the loop is a publication that the loop has not read. -/
theorem Sound.deliver {line : ScheduledLine}
    (sound : watch.Sound stamp start showsTime done (line :: rest) written) :
    (watch.step stamp .deliver).Sound stamp start showsTime (done ++ [line]) rest written := by
  have leads := Session.leads_deliverNext watch.session stamp
  have unseen : watch.seen ≠ (watch.session.deliverNext stamp).channel.version :=
    (sound.seen_le.trans_lt sound.plays.version_lt_deliverNext).ne
  refine ⟨sound.plays.deliverNext, leads.published sound.published,
    sound.seen_le.trans leads.version_le, sound.isPlain, sound.showsTime_eq, ?_⟩
  have fed_eq := (Session.fed_eq_of_script_eq leads.script_eq).trans
    (Session.fed_concat watch.session stamp done line)
  rw [Watch.step, fed_eq]
  intro nodup
  rcases sound.shown (List.Nodup.of_append_left nodup) with
    ⟨old, recent, split_eq, shown, relies⟩
  refine ⟨old, recent ++ [_], by rw [split_eq, List.append_assoc], ?_, ?_⟩
  · simpa only [Watch.step, leads.capacity_eq] using shown
  -- What the loop relies on holds while it has seen the last publication, which it has no more, or
  -- if nothing is left to come, which was not so before the delivery.
  · simp only [Relies] at relies ⊢
    split at relies <;> simp_all

/-- A step of the loop writes what is new if it shows the feed, and nothing otherwise. -/
theorem Sound.proceed (sound : watch.Sound stamp start showsTime done rest written) :
    watch.proceed.Sound stamp start showsTime done rest (written ++ watch.newlyShown) := by
  rcases sound with ⟨plays, published, seen_le, isPlain, showsTime_eq, shown⟩
  cases phase_eq : watch.phase with
  | reading =>
      simp only [Watch.proceed, newlyShown, phase_eq, List.append_nil]
      refine ⟨plays, published, le_rfl, isPlain, showsTime_eq, ?_⟩
      intro nodup
      rcases shown nodup with ⟨old, recent, split_eq, shown, -⟩
      refine ⟨old, recent, split_eq, shown, ?_⟩
      intro exhausted
      rw [published] at exhausted
      exact plays.rest_eq_nil exhausted
  | showing progress =>
      simp only [Watch.proceed, newlyShown, phase_eq]
      refine ⟨plays, published, seen_le, ?_, ?_, ?_⟩
      · simp [Window.afterRender, isPlain]
      · simp [Window.afterRender, isPlain, showsTime_eq]
      · intro nodup
        have nodup : (watch.session.fed stamp done).Nodup := nodup
        rcases shown nodup with ⟨old, recent, split_eq, shown, relies⟩
        simp only [Relies, phase_eq] at relies
        rw [split_eq] at nodup
        have rendered := shown.afterRender isPlain plays.capacity_pos nodup
        rw [← split_eq, ← plays.snapshot_eq] at rendered
        -- The snapshot is taken after the progress was read, so that it lacks nothing.
        refine ⟨watch.session.fed stamp done, [], (List.append_nil _).symm, rendered, ?_⟩
        exact ⟨fun _ => rfl, fun exhausted => ⟨relies exhausted, rfl⟩⟩
  | deciding progress =>
      simp only [Watch.proceed, newlyShown, phase_eq, List.append_nil]
      refine ⟨plays, published, seen_le, isPlain, showsTime_eq, ?_⟩
      intro nodup
      rcases shown nodup with ⟨old, recent, split_eq, shown, relies⟩
      simp only [Relies, phase_eq] at relies
      refine ⟨old, recent, split_eq, shown, ?_⟩
      simp only [Relies, phaseAfter]
      split_ifs with leaves
      · rw [Bool.and_eq_true] at leaves
        exact relies.2 leaves.1
      · exact relies.1
  | waiting =>
      simp only [Watch.proceed, newlyShown, phase_eq, List.append_nil]
      split_ifs with unseen
      · refine ⟨plays, published, seen_le, isPlain, showsTime_eq, ?_⟩
        intro nodup
        rcases shown nodup with ⟨old, recent, split_eq, shown, -⟩
        exact ⟨old, recent, split_eq, shown, trivial⟩
      · exact ⟨plays, published, seen_le, isPlain, showsTime_eq, shown⟩
  | left =>
      simp only [Watch.proceed, newlyShown, phase_eq, List.append_nil]
      exact ⟨plays, published, seen_le, isPlain, showsTime_eq, shown⟩

/-- A step of the loop or of the session adds to what has been delivered or to what is written. -/
theorem Sound.step (sound : watch.Sound stamp start showsTime done rest written) (step : Step) :
    ∃ done' rest' added,
      watch.sentIn step = added.flatMap (Window.create .plain showsTime).lineCommands ∧
        (watch.step stamp step).Sound stamp start showsTime done' rest' (written ++ added) := by
  cases step with
  | proceed =>
      have same_commands :
          watch.window.lineCommands = (Window.create .plain showsTime).lineCommands := by
        funext line
        simp [Window.lineCommands, Window.create, sound.showsTime_eq]
      refine ⟨done, rest, watch.newlyShown, ?_, sound.proceed⟩
      rw [← same_commands]
      exact sent_eq sound.isPlain
  | deliver =>
      cases rest with
      | nil =>
          refine ⟨done, [], [], rfl, ?_⟩
          rw [List.append_nil, Watch.step, sound.plays.deliverNext_of_nil]
          exact sound
      | cons line rest =>
          refine ⟨done ++ [line], rest, [], rfl, ?_⟩
          rw [List.append_nil]
          exact sound.deliver

theorem Sound.run (sound : watch.Sound stamp start showsTime done rest written)
    (steps : List Step) :
    ∃ done' rest' added,
      (run stamp watch steps).2 = added.flatMap (Window.create .plain showsTime).lineCommands ∧
        (run stamp watch steps).1.Sound stamp start showsTime done' rest' (written ++ added) := by
  induction steps generalizing watch done rest written with
  | nil => exact ⟨done, rest, [], rfl, by simpa [Watch.run] using sound⟩
  | cons step steps ih =>
      rcases sound.step step with ⟨done', rest', added, sent_eq, after⟩
      rcases ih after with ⟨done'', rest'', later, later_eq, final⟩
      refine ⟨done'', rest'', added ++ later, ?_, ?_⟩
      · rw [List.flatMap_append, ← sent_eq, ← later_eq]
        rfl
      · rw [← List.append_assoc]
        exact final

theorem sound_start {session : Session} (plays : session.Plays stamp start [] rest)
    (published : session.channel.value = session.progress) (showsTime staysOpen : Bool) :
    (Watch.start session (.create .plain showsTime) staysOpen).Sound stamp start showsTime [] rest
      [] :=
  ⟨plays, published, le_rfl, rfl, rfl, fun _ =>
    ⟨[], _, rfl, Window.hasShown_create .plain showsTime _, trivial⟩⟩

section Written

variable (sound : watch.Sound stamp start showsTime done rest written)
  (nodup : (watch.session.fed stamp done).Nodup)

include sound

/-- Where all that entered the feed has been shown, all that the feed holds has been written. -/
theorem Sound.newest_written (shown : watch.window.HasShown
      watch.session.buffer.capacity.toNat (watch.session.fed stamp done) written) :
    (∀ line ∈ (watch.session.fed stamp done).getLast?, line ∈ written) ∧
      ∀ line ∈ watch.session.snapshot, line ∈ written := by
  rw [sound.plays.snapshot_eq]
  refine ⟨?_, shown.newest_written⟩
  intro line line_mem
  apply shown.newest_written
  apply List.mem_of_getLast?
  rwa [getLast?_rtake sound.plays.capacity_pos]

include nodup

theorem Sound.written_sublist : written.Sublist (watch.session.fed stamp done) := by
  rcases sound.shown nodup with ⟨old, recent, split_eq, shown, -⟩
  rw [split_eq]
  exact shown.sublist.trans (List.sublist_append_left old recent)

theorem Sound.hasShown_of_waiting (isWaiting : watch.phase = .waiting)
    (up_to_date : watch.seen = watch.session.channel.version) :
    watch.window.HasShown watch.session.buffer.capacity.toNat (watch.session.fed stamp done)
      written := by
  rcases sound.shown nodup with ⟨old, recent, split_eq, shown, relies⟩
  simp only [Relies, isWaiting] at relies
  rwa [split_eq, relies up_to_date, List.append_nil]

theorem Sound.hasShown_of_left (hasLeft : watch.phase = .left) :
    rest = [] ∧ watch.window.HasShown watch.session.buffer.capacity.toNat
      (watch.session.fed stamp done) written := by
  rcases sound.shown nodup with ⟨old, recent, split_eq, shown, relies⟩
  simp only [Relies, hasLeft] at relies
  rcases relies with ⟨rest_nil, recent_nil⟩
  refine ⟨rest_nil, ?_⟩
  rwa [split_eq, recent_nil, List.append_nil]

end Written

theorem leads_run (watch : Watch) (steps : List Step) :
    watch.session.Leads (run stamp watch steps).1.session := by
  induction steps generalizing watch with
  | nil => exact .refl watch.session
  | cons step steps ih =>
      refine Session.Leads.trans ?_ (ih (watch.step stamp step))
      cases step with
      | proceed =>
          have session_eq : watch.proceed.session = watch.session := by
            simp only [Watch.proceed]
            cases watch.phase with
            | waiting => split_ifs <;> rfl
            | _ => rfl
          rw [Watch.step, session_eq]
          exact .refl watch.session
      | deliver => exact Session.leads_deliverNext watch.session stamp

/--
However the steps of a watch and the deliveries of a session that was started follow each other, as
long as the lines that enter the feed are distinct: the text that is sent consists of some of them,
as they are shown, in order and none twice; a watch that waits without an unseen publication has
written the newest of them and all that the feed holds; and a watch that has left has written all
that the feed will ever hold, which are all lines of the script if the feed has room for them.
-/
theorem watch_loses_nothing {script : Script} {config : PlaybackConfig} {session : Session}
    (created : Session.create script config = .ok session) (stamp : Nat → Instant) (now : Nat)
    (showsTime staysOpen : Bool) (steps : List Step) :
    let first := Watch.start (session.start stamp true now) (.create .plain showsTime) staysOpen
    let watch := (run stamp first steps).1
    let sent := (run stamp first steps).2
    let delivered := script.deliveryOrder.take watch.session.delivered
    let fed := feedLines stamp (script.seed ++ delivered.map ScheduledLine.text)
    fed.Nodup → ∃ written : List FeedLine,
      Command.spellAll sent =
        String.join (written.map fun line => line.shown showsTime ++ "\n") ∧
      written.Sublist fed ∧
      (written.map FeedLine.text).Sublist
        (script.seed ++ delivered.map ScheduledLine.text) ∧
      written.Nodup ∧
      (watch.phase = .waiting → ¬watch.session.channel.hasUnseen watch.seen →
        (∀ line ∈ fed.getLast?, line ∈ written) ∧
          ∀ line ∈ watch.session.snapshot, line ∈ written) ∧
      (watch.phase = .left →
        watch.session.delivered = script.scheduled.length ∧
        (∀ line ∈ watch.session.snapshot, line ∈ written) ∧
        (script.lineCount ≤ config.capacity.toNat →
          written = feedLines stamp
              (script.seed ++ script.deliveryOrder.map ScheduledLine.text) ∧
            written.map FeedLine.text =
              script.seed ++ script.deliveryOrder.map ScheduledLine.text)) := by
  intro first watch sent delivered fed nodup
  rcases Session.isFresh_of_create created with
    ⟨isFresh, isIdle, published, script_eq, -, capacity_eq⟩
  have started := Session.leads_start session stamp true now
  have sound_first := sound_start (isFresh.start stamp isIdle now) (started.published published)
    showsTime staysOpen
  rcases sound_first.run steps with ⟨done, rest, written, sent_eq, sound⟩
  have sound : watch.Sound stamp now showsTime done rest written := sound
  have leads : session.Leads watch.session := started.trans (leads_run first steps)
  have fed_eq : watch.session.fed stamp done = fed := by
    rw [Session.fed, sound.plays.done_eq_take, leads.script_eq, script_eq]
  have fed_nodup : (watch.session.fed stamp done).Nodup := by
    rwa [fed_eq]
  have written_sublist : written.Sublist fed := by
    rw [← fed_eq]
    exact sound.written_sublist fed_nodup
  refine ⟨written, ?_, written_sublist, ?_, written_sublist.nodup nodup, ?_, ?_⟩
  · have sent_eq : sent = _ := sent_eq
    rw [sent_eq]
    exact Window.spellAll_flatMap_lineCommands _ written
  · have texts_sublist := written_sublist.map FeedLine.text
    rwa [map_text_feedLines] at texts_sublist
  · intro isWaiting seen
    have up_to_date : watch.seen = watch.session.channel.version := by
      simpa [Channel.hasUnseen] using seen
    rw [← fed_eq]
    exact sound.newest_written (sound.hasShown_of_waiting fed_nodup isWaiting up_to_date)
  · intro hasLeft
    rcases sound.hasShown_of_left fed_nodup hasLeft with ⟨rest_nil, shown⟩
    have done_eq : done = script.deliveryOrder := by
      have order_eq := sound.plays.order_eq
      rw [leads.script_eq, script_eq, rest_nil, List.append_nil] at order_eq
      exact order_eq.symm
    have done_length : done.length = script.scheduled.length := by
      rw [done_eq]
      exact List.length_mergeSort _
    refine ⟨sound.plays.delivered_eq.trans done_length, (sound.newest_written shown).2, ?_⟩
    intro has_room
    have all_eq : watch.session.fed stamp done =
        feedLines stamp (script.seed ++ script.deliveryOrder.map ScheduledLine.text) := by
      rw [Session.fed, done_eq, leads.script_eq, script_eq]
    have fits : (watch.session.fed stamp done).length ≤ watch.session.buffer.capacity.toNat := by
      rw [leads.capacity_eq, capacity_eq, all_eq, length_feedLines, List.length_append,
        List.length_map, ← done_eq, done_length]
      exact has_room
    have written_eq := (shown.all_written fits).trans all_eq
    refine ⟨written_eq, ?_⟩
    rw [written_eq, map_text_feedLines]

/-- A line that is delivered between reading the progress and showing the feed is written once. -/
theorem watch_loses_nothing_between_steps :
    let script : Script := ⟨["ready"], [⟨"WARN lag", 0⟩]⟩
    let steps := [.proceed, .deliver, .proceed, .proceed] ++ roundSteps
    ∃ session, Session.create script .standard = .ok session ∧
      let first := Watch.start (session.start (fun _ => .epoch) true 0) (.create .plain true) false
      (run (fun _ => .epoch) first steps).1.phase = .left ∧
      Command.spellAll (run (fun _ => .epoch) first steps).2 =
        "00:00:00     ready\n00:00:00 WRN WARN lag\n" := by
  intro script steps
  have created : Session.create script .standard = .ok _ := rfl
  refine ⟨_, created, ?_⟩
  intro first
  have queue_eq (speed : Speed) (start : Nat) : Schedule.deliveries script.scheduled speed start =
      [⟨start + speed.scaledTicks 0, ⟨"WARN lag", 0⟩⟩] := by
    simp [Schedule.deliveries, script]
  have order_eq : script.deliveryOrder = [⟨"WARN lag", 0⟩] := by
    simp [Script.deliveryOrder, script]
  have ended : (run (fun _ => .epoch) first steps).1.session.delivered = 1 ∧
      (run (fun _ => .epoch) first steps).1.phase = .left := by
    simp only [first, Session.start, Schedule.arm, queue_eq]
    exact ⟨rfl, rfl⟩
  have nodup : (feedLines (fun _ => .epoch) (script.seed ++ (script.deliveryOrder.take
      (run (fun _ => .epoch) first steps).1.session.delivered).map ScheduledLine.text)).Nodup := by
    rw [ended.1, order_eq]
    decide +kernel
  rcases watch_loses_nothing created (fun _ => .epoch) 0 true false steps nodup with
    ⟨written, sent_eq, -, -, -, -, left⟩
  rcases left ended.2 with ⟨-, -, all_written⟩
  refine ⟨ended.2, ?_⟩
  rw [sent_eq, (all_written (by decide)).1, order_eq]
  decide +kernel

end Watch

end ScriptedFeed
