import ScriptedFeed.Proofs.Playback.Content

/-!
# What followers read is never out of date

A follower of a session learns its progress from the publications alone. Here the readings of every
follower are recorded beside the timeline, as the answers to its steps give them. A follower without
an unseen publication has read the progress that the session has now, whoever subscribed when and
whatever was done to the session since; and no follower ever reads a progress that lies before one
that it has read.
-/

namespace ScriptedFeed

/-- A timeline and what the followers of its session have read. -/
structure Audience where
  timeline : Timeline
  /--
  For each follower the progress it has read, the last reading first. The oldest reading is what was
  published when it subscribed.
  -/
  readings : List (List Progress)

namespace Audience

/-- Nobody follows the session yet. -/
def ofSession (session : Session) (hasTimer : Bool) (window : Window) : Audience :=
  ⟨.ofSession session hasTimer window, []⟩

/-- The readings after a step, as its answer gives them. -/
def readingsAfter (audience : Audience) : Timeline.Step → Timeline.Reply → List (List Progress)
  | .subscribe, .subscribed _ =>
      audience.readings ++ [[audience.timeline.session.channel.value]]
  | .observe follower, .observed _ progress =>
      audience.readings.modify follower (progress :: ·)
  | .wait follower _, .observed _ progress =>
      audience.readings.modify follower (progress :: ·)
  | _, _ => audience.readings

/-- The timeline and the readings after a step. -/
def step (audience : Audience) (stamp : Nat → Instant) (step : Timeline.Step) : Audience where
  timeline := audience.timeline.step stamp step
  readings := audience.readingsAfter step (audience.timeline.reply stamp step)

/-- The timeline and the readings after some steps. -/
def afterAll (audience : Audience) (stamp : Nat → Instant) (steps : List Timeline.Step) :
    Audience :=
  steps.foldl (fun audience step => audience.step stamp step) audience

end Audience

namespace Session

variable {session before after : Session} {seen : Nat} {readings : List Progress}

/-- What is true of a follower that has seen a publication last and has made some readings. -/
structure HasRead (session : Session) (seen : Nat) (readings : List Progress) : Prop where
  seen_le : seen ≤ session.channel.version
  last_eq : seen = session.channel.version → readings.head? = some session.progress
  /-- Each reading is the same as those before it or later, and none is later than the session. -/
  forward : (session.progress :: readings).Pairwise fun later earlier => earlier.LeadsTo later
  accounts : ∀ progress ∈ readings, progress.Accounts session.script.scheduled.length

/-- What becomes of the session later does not take a reading back. -/
theorem HasRead.leads (has : before.HasRead seen readings) (leads : before.Leads after) :
    after.HasRead seen readings := by
  refine ⟨has.seen_le.trans leads.version_le, ?_, ?_, ?_⟩
  · intro seen_eq
    have seen_le := has.seen_le
    have version_le := leads.version_le
    rcases leads.unchanged (by omega) with ⟨-, progress_eq⟩
    rw [progress_eq]
    exact has.last_eq (by omega)
  · rcases List.pairwise_cons.1 has.forward with ⟨before_latest, among⟩
    refine List.pairwise_cons.2 ⟨?_, among⟩
    intro earlier earlier_mem
    exact (before_latest earlier earlier_mem).trans leads.progress_leads
  · rw [leads.script_eq]
    exact has.accounts

theorem HasRead.read (has : session.HasRead seen readings)
    (accounts : session.progress.Accounts session.script.scheduled.length) :
    session.HasRead session.channel.version (session.progress :: readings) := by
  refine ⟨le_rfl, fun _ => rfl, ?_, ?_⟩
  · refine List.pairwise_cons.2 ⟨?_, has.forward⟩
    intro earlier earlier_mem
    rcases List.mem_cons.1 earlier_mem with rfl | earlier_mem
    · exact .refl _
    · exact (List.pairwise_cons.1 has.forward).1 earlier earlier_mem
  · intro progress progress_mem
    rcases List.mem_cons.1 progress_mem with rfl | progress_mem
    · exact accounts
    · exact has.accounts progress progress_mem

theorem hasRead_of_subscribe
    (accounts : session.progress.Accounts session.script.scheduled.length) :
    session.HasRead session.channel.version [session.progress] := by
  refine ⟨le_rfl, fun _ => rfl, ?_, ?_⟩
  · simpa using Progress.LeadsTo.refl session.progress
  · simpa using accounts

end Session

section Modify

variable {α β : Type} {related : α → β → Prop} {items : List α} {others : List β}

theorem forall₂_set_modify {item : α} {change : β → β} (all : List.Forall₂ related items others)
    (kept : ∀ {old : α} {other : β}, related old other → related item (change other))
    (index : Nat) :
    List.Forall₂ related (items.set index item) (others.modify index change) := by
  induction all generalizing index with
  | nil => simp
  | cons first rest ih =>
      cases index with
      | zero => exact .cons (kept first) rest
      | succ index => exact .cons first (ih index)

end Modify

namespace Timeline

variable {stamp : Nat → Instant} {timeline : Timeline} {readings : List (List Progress)}

/-- The readings belong to the followers of the timeline. -/
def IsFollowedBy (timeline : Timeline) (readings : List (List Progress)) : Prop :=
  List.Forall₂ timeline.session.HasRead timeline.seen readings

theorem IsFollowedBy.leads {after : Timeline} (followed : timeline.IsFollowedBy readings)
    (leads : timeline.session.Leads after.session) (seen_eq : after.seen = timeline.seen) :
    after.IsFollowedBy readings := by
  rw [IsFollowedBy, seen_eq]
  exact List.Forall₂.imp (fun _ _ has => has.leads leads) followed

/-- A follower that sees the last publication has read the present progress. -/
theorem IsFollowedBy.markSeen (followed : timeline.IsFollowedBy readings)
    (published : timeline.session.channel.value = timeline.session.progress)
    (accounts : timeline.session.progress.Accounts timeline.session.script.scheduled.length)
    (follower : Nat) :
    (timeline.markSeen follower).IsFollowedBy
      (readings.modify follower (timeline.session.channel.value :: ·)) := by
  rw [published]
  exact forall₂_set_modify followed (fun has => has.read accounts) follower

theorem seen_markSeen_of_not_hasUnseen {follower : Nat} (seen : ¬timeline.hasUnseen follower) :
    (timeline.markSeen follower).seen = timeline.seen := by
  simp only [hasUnseen, Channel.hasUnseen] at seen
  simp only [markSeen]
  cases version_eq : timeline.seen[follower]? with
  | none => exact List.set_eq_of_length_le (List.getElem?_eq_none_iff.1 version_eq)
  | some version =>
      simp only [version_eq, ne_eq, decide_not, Bool.not_eq_true, Bool.not_eq_false',
        decide_eq_true_eq] at seen
      rcases List.getElem?_eq_some_iff.1 version_eq with ⟨index_lt, get_eq⟩
      rw [← seen, ← get_eq, List.set_getElem_self]

end Timeline

namespace Audience

variable {stamp : Nat → Instant} {audience : Audience}

/-- What is true of an audience from the creation of the session on. -/
structure Sound (audience : Audience) (stamp : Nat → Instant) : Prop where
  reached : ∃ history : History, history.Sound stamp ∧ history.timeline = audience.timeline
  published : audience.timeline.session.channel.value = audience.timeline.session.progress
  followed : audience.timeline.IsFollowedBy audience.readings

theorem Sound.accounts (sound : audience.Sound stamp) :
    audience.timeline.session.progress.Accounts
      audience.timeline.session.script.scheduled.length := by
  rcases sound.reached with ⟨history, history_sound, timeline_eq⟩
  rw [← timeline_eq]
  exact history_sound.course.accounts

theorem Sound.isStopped (sound : audience.Sound stamp) (isDropped : audience.timeline.isDropped) :
    audience.timeline.session.state = .stopped := by
  rcases sound.reached with ⟨history, history_sound, timeline_eq⟩
  rw [← timeline_eq] at isDropped ⊢
  exact history_sound.isStopped isDropped

/-- A follower that waits reads what is published when it wakes up, if it does. -/
theorem followed_wait (timeline : Timeline) (readings : List (List Progress)) (follower limit : Nat)
    (published : timeline.session.channel.value = timeline.session.progress)
    (accounts : (timeline.afterWait stamp follower limit).session.progress.Accounts
      (timeline.afterWait stamp follower limit).session.script.scheduled.length)
    (followed : timeline.IsFollowedBy readings) :
    (timeline.afterWait stamp follower limit).IsFollowedBy
      (readingsAfter ⟨timeline, readings⟩ (.wait follower limit)
        (timeline.waitReply stamp follower limit)) := by
  have leads := Timeline.leads_afterWait timeline stamp follower limit
  have marked := followed.markSeen published (leads.accounts accounts) follower
  by_cases unseen : timeline.hasUnseen follower
  · simp only [Timeline.afterWait, Timeline.waitReply, unseen, if_true]
    exact marked.leads (Session.leads_advance _ stamp _) rfl
  · by_cases isDropped : timeline.isDropped
    · simp only [Timeline.afterWait, Timeline.waitReply, unseen, isDropped, if_true]
      rw [Timeline.IsFollowedBy, Timeline.seen_markSeen_of_not_hasUnseen unseen] at marked
      exact marked
    · simp only [Timeline.afterWait, Timeline.waitReply, unseen, isDropped] at accounts ⊢
      cases wake_eq : timeline.wakeTick? limit with
      | none => exact followed.leads (Session.leads_advance _ stamp _) rfl
      | some tick =>
          rw [wake_eq] at accounts
          -- The follower reads between the first turn of deliveries and the others.
          have turn_leads := Session.leads_advanceTurn timeline.session stamp tick
          have rest_leads := Session.leads_advance (timeline.session.advanceTurn stamp tick) stamp
            tick
          have turned : (timeline.turnAt stamp tick).IsFollowedBy readings :=
            followed.leads turn_leads rfl
          exact (turned.markSeen (turn_leads.published published) (rest_leads.accounts accounts)
            follower).leads rest_leads rfl

theorem readingsAfter_of_not_possible {step : Timeline.Step}
    (impossible : ¬audience.timeline.isPossible step) :
    audience.readingsAfter step (audience.timeline.reply stamp step) = audience.readings := by
  simp only [Timeline.reply, if_neg impossible]
  cases step <;> simp [readingsAfter, Timeline.isPossible] at impossible ⊢

theorem Sound.followed_step (sound : audience.Sound stamp) (step : Timeline.Step)
    (accounts : (audience.timeline.step stamp step).session.progress.Accounts
      (audience.timeline.step stamp step).session.script.scheduled.length) :
    (audience.timeline.step stamp step).IsFollowedBy (audience.step stamp step).readings := by
  have leads := Timeline.leads_step audience.timeline stamp step
  simp only [Audience.step]
  by_cases possible : audience.timeline.isPossible step
  · simp only [Timeline.step, Timeline.reply, possible, if_true] at accounts leads ⊢
    cases step with
    | look => exact sound.followed
    | start => exact sound.followed.leads leads rfl
    | stop => exact sound.followed.leads leads rfl
    | drop => exact sound.followed.leads leads rfl
    | advance milliseconds => exact sound.followed.leads leads rfl
    | subscribe =>
        have subscribed := Session.hasRead_of_subscribe sound.accounts
        rw [← sound.published] at subscribed
        exact List.rel_append sound.followed (.cons subscribed .nil)
    | observe follower => exact sound.followed.markSeen sound.published sound.accounts follower
    | wait follower limit =>
        exact followed_wait audience.timeline audience.readings follower limit sound.published
          accounts sound.followed
    | render => exact sound.followed.leads leads rfl
  · rw [readingsAfter_of_not_possible possible]
    simp only [Timeline.step, if_neg possible]
    exact sound.followed

theorem sound_ofSession {session : Session} (isFresh : session.IsFresh)
    (published : session.channel.value = session.progress) (hasTimer : Bool) (window : Window) :
    (ofSession session hasTimer window).Sound stamp :=
  ⟨⟨.ofSession session hasTimer window, History.sound_ofSession isFresh hasTimer window, rfl⟩,
    published, .nil⟩

theorem Sound.step (sound : audience.Sound stamp) (step : Timeline.Step) :
    (audience.step stamp step).Sound stamp := by
  rcases sound.reached with ⟨history, history_sound, timeline_eq⟩
  have reached := history_sound.step step
  have after_eq : (history.step stamp step).timeline = (audience.step stamp step).timeline := by
    rw [History.timeline_step, timeline_eq]
    rfl
  refine ⟨⟨_, reached, after_eq⟩, ?_, ?_⟩
  · exact (Timeline.leads_step audience.timeline stamp step).published sound.published
  · apply sound.followed_step step
    have accounts := reached.course.accounts
    rwa [after_eq] at accounts

theorem Sound.afterAll (sound : audience.Sound stamp) (steps : List Timeline.Step) :
    (audience.afterAll stamp steps).Sound stamp := by
  induction steps generalizing audience with
  | nil => exact sound
  | cons step steps ih => exact ih (sound.step step)

theorem leads_afterAll (audience : Audience) (steps : List Timeline.Step) :
    audience.timeline.session.Leads (audience.afterAll stamp steps).timeline.session := by
  induction steps generalizing audience with
  | nil => exact .refl _
  | cons step steps ih =>
      exact (Timeline.leads_step audience.timeline stamp step).trans (ih (audience.step stamp step))

theorem Sound.last_eq (sound : audience.Sound stamp) {follower : Nat}
    (subscribed : follower < audience.timeline.seen.length)
    (seen : ¬audience.timeline.hasUnseen follower) :
    audience.readings[follower]?.bind List.head? = some audience.timeline.session.progress := by
  have readings_length := sound.followed.length_eq
  have has := sound.followed.get subscribed (readings_length ▸ subscribed)
  simp only [Timeline.hasUnseen, List.getElem?_eq_getElem subscribed, Channel.hasUnseen, ne_eq,
    decide_not, Bool.not_eq_true, Bool.not_eq_false', decide_eq_true_eq] at seen
  rw [List.getElem?_eq_getElem (readings_length ▸ subscribed)]
  exact has.last_eq seen

theorem Sound.pairwise_precedes (sound : audience.Sound stamp) {readings : List Progress}
    (readings_mem : readings ∈ audience.readings) :
    readings.Pairwise fun later earlier => earlier ≠ later → earlier.Precedes later := by
  rcases List.getElem_of_mem readings_mem with ⟨follower, subscribed, rfl⟩
  have has := sound.followed.get (sound.followed.length_eq ▸ subscribed) subscribed
  apply List.Pairwise.imp_of_mem _ (List.pairwise_cons.1 has.forward).2
  intro later earlier later_mem earlier_mem leads distinct
  exact leads.precedes (has.accounts earlier earlier_mem) (has.accounts later later_mem) distinct

/--
Whatever is done to a session and by its followers, the progress that is published is that of the
session, stopped when its owner has gone; a follower without an unseen publication has read it last.
The counts add up to the lines of the script. From there on the state, the deliveries and what is
to come only move forward, so that a playback that is over stays over; and so do the readings of
every follower.
-/
theorem progress_never_stale {script : Script} {config : PlaybackConfig} {session : Session}
    (created : Session.create script config = .ok session) (stamp : Nat → Instant)
    (hasTimer : Bool) (window : Window) (steps : List Timeline.Step) :
    let audience := (ofSession session hasTimer window).afterAll stamp steps
    let timeline := audience.timeline
    let progress := timeline.session.progress
    timeline.session.channel.value = progress ∧
    (timeline.isDropped → progress.state = .stopped) ∧
    (∀ follower < timeline.seen.length, ¬timeline.hasUnseen follower →
      audience.readings[follower]?.bind List.head? = some progress) ∧
    progress.Accounts script.scheduled.length ∧
    (∀ later, let after := (audience.afterAll stamp later).timeline.session.progress
      progress.LeadsTo after ∧ (progress.isExhausted → after.isExhausted)) ∧
    (∀ readings ∈ audience.readings, readings.Pairwise fun later earlier =>
      earlier ≠ later → earlier.Precedes later) := by
  intro audience timeline progress
  rcases Session.isFresh_of_create created with ⟨isFresh, -, published, script_eq, -, -⟩
  have sound : audience.Sound stamp :=
    (sound_ofSession isFresh published hasTimer window).afterAll steps
  have leads : session.Leads timeline.session :=
    leads_afterAll (ofSession session hasTimer window) steps
  refine ⟨sound.published, sound.isStopped, ?_, ?_, ?_, ?_⟩
  · intro follower subscribed seen
    exact sound.last_eq subscribed seen
  · have accounts := sound.accounts
    rwa [leads.script_eq, script_eq] at accounts
  · intro later after
    have later_leads : progress.LeadsTo after := (leads_afterAll audience later).progress_leads
    exact ⟨later_leads, later_leads.isExhausted⟩
  · intro readings readings_mem
    exact sound.pairwise_precedes readings_mem

/-- A follower that looks after the start reads that playback runs. -/
theorem progress_never_stale_after_start :
    ∃ session, Session.create .landing .standard = .ok session ∧
      ((ofSession session true (.create .plain false)).afterAll (fun _ => .epoch)
        [.subscribe, .start, .observe 0]).readings[0]?.bind List.head? =
          some ⟨.running, 0, 8⟩ := by
  have created : Session.create .landing .standard = .ok _ := rfl
  refine ⟨_, created, ?_⟩
  rcases progress_never_stale created (fun _ => .epoch) true (.create .plain false)
    [.subscribe, .start, .observe 0] with ⟨-, -, last_eq, -⟩
  exact last_eq 0 (by decide) (by decide)

end Audience

end ScriptedFeed
