import ScriptedFeed.Playback.Timeline
import ScriptedFeed.Proofs.Playback.Session

/-!
# Progress only moves forward

Whatever is done to a session, its state follows the order of a session's life, the count of
deliveries does not fall and the count of what is to come does not rise. Every change of the
progress is published together with it: where nothing has been published, the progress is what it
was. These facts are one relation between a session and what becomes of it, which every operation of
a session and so every step of a timeline keeps.
-/

namespace ScriptedFeed

/-- The place of a state in the life of a session. -/
def PlaybackState.rank : PlaybackState → Nat
  | .idle => 0
  | .running => 1
  | .stopped => 2

namespace Progress

/-- One progress is the same as another or comes later in the life of the same session. -/
structure LeadsTo (before after : Progress) : Prop where
  rank_le : before.state.rank ≤ after.state.rank
  delivered_le : before.delivered ≤ after.delivered
  pending_le : after.pending ≤ before.pending

/-- One progress comes before another: by the state and then by the count of deliveries. -/
def Precedes (before after : Progress) : Prop :=
  before.state.rank < after.state.rank ∨
    before.state = after.state ∧ before.delivered < after.delivered

/-- The count of what is to come agrees with the number of lines that are scheduled. -/
structure Accounts (progress : Progress) (total : Nat) : Prop where
  delivered_le : progress.delivered ≤ total
  delivered_add_pending : progress.state ≠ .stopped → progress.delivered + progress.pending = total
  pending_eq_zero : progress.state = .stopped → progress.pending = 0

variable {before middle after : Progress} {total : Nat}

theorem LeadsTo.refl (progress : Progress) : progress.LeadsTo progress :=
  ⟨le_rfl, le_rfl, le_rfl⟩

theorem LeadsTo.trans (first : before.LeadsTo middle) (second : middle.LeadsTo after) :
    before.LeadsTo after :=
  ⟨first.rank_le.trans second.rank_le, first.delivered_le.trans second.delivered_le,
    second.pending_le.trans first.pending_le⟩

theorem state_eq_of_rank_eq {state other : PlaybackState} (rank_eq : state.rank = other.rank) :
    state = other := by
  cases state <;> cases other <;> simp_all [PlaybackState.rank]

/-- A playback that is over stays over. -/
theorem LeadsTo.isExhausted (leads : before.LeadsTo after) (exhausted : before.isExhausted) :
    after.isExhausted := by
  rcases leads with ⟨rank_le, -, pending_le⟩
  simp only [Progress.isExhausted, Bool.and_eq_true, decide_eq_true_eq] at exhausted ⊢
  rcases exhausted with ⟨pending_eq, not_idle⟩
  refine ⟨by omega, ?_⟩
  intro isIdle
  rw [isIdle] at rank_le
  cases state_eq : before.state with
  | idle => exact not_idle state_eq
  | running => simp [state_eq, PlaybackState.rank] at rank_le
  | stopped => simp [state_eq, PlaybackState.rank] at rank_le

/-- The state and the count of deliveries tell the progress of one session apart. -/
theorem eq_of_accounts (before_accounts : before.Accounts total)
    (after_accounts : after.Accounts total) (state_eq : before.state = after.state)
    (delivered_eq : before.delivered = after.delivered) : before = after := by
  have pending_eq : before.pending = after.pending := by
    by_cases isStopped : after.state = .stopped
    · rw [after_accounts.pending_eq_zero isStopped,
        before_accounts.pending_eq_zero (state_eq.trans isStopped)]
    · have before_sum := before_accounts.delivered_add_pending (state_eq.trans_ne isStopped)
      have after_sum := after_accounts.delivered_add_pending isStopped
      omega
  cases before
  cases after
  simp_all

theorem LeadsTo.precedes (leads : before.LeadsTo after) (before_accounts : before.Accounts total)
    (after_accounts : after.Accounts total) (distinct : before ≠ after) :
    before.Precedes after := by
  rcases leads.rank_le.lt_or_eq with rank_lt | rank_eq
  · exact .inl rank_lt
  · have state_eq := state_eq_of_rank_eq rank_eq
    rcases leads.delivered_le.lt_or_eq with delivered_lt | delivered_eq
    · exact .inr ⟨state_eq, delivered_lt⟩
    · exact absurd (eq_of_accounts before_accounts after_accounts state_eq delivered_eq) distinct

end Progress

namespace Session

/--
A session becomes another one: it is still of the same script and configuration, it has come no less
far, and whoever follows it can tell by the number of publications whether its progress is another.
-/
structure Leads (before after : Session) : Prop where
  script_eq : after.script = before.script
  config_eq : after.config = before.config
  capacity_eq : after.buffer.capacity = before.buffer.capacity
  progress_leads : before.progress.LeadsTo after.progress
  version_le : before.channel.version ≤ after.channel.version
  /-- Where nothing has been published, nothing has become of the progress. -/
  unchanged : after.channel.version = before.channel.version →
    after.channel = before.channel ∧ after.progress = before.progress
  /-- The progress that was published last stays that of the session. -/
  published : before.channel.value = before.progress → after.channel.value = after.progress

section Leads

variable {session before middle after : Session}

theorem Leads.refl (session : Session) : session.Leads session :=
  ⟨rfl, rfl, rfl, .refl _, le_rfl, fun _ => ⟨rfl, rfl⟩, id⟩

theorem Leads.trans (first : before.Leads middle) (second : middle.Leads after) :
    before.Leads after where
  script_eq := second.script_eq.trans first.script_eq
  config_eq := second.config_eq.trans first.config_eq
  capacity_eq := second.capacity_eq.trans first.capacity_eq
  progress_leads := first.progress_leads.trans second.progress_leads
  version_le := first.version_le.trans second.version_le
  unchanged := by
    intro version_eq
    have first_le := first.version_le
    have second_le := second.version_le
    rcases second.unchanged (by omega) with ⟨second_channel, second_progress⟩
    rcases first.unchanged (by omega) with ⟨first_channel, first_progress⟩
    exact ⟨second_channel.trans first_channel, second_progress.trans first_progress⟩
  published := second.published ∘ first.published

/-- Whoever follows the session can tell that something has been delivered. -/
theorem Leads.version_lt (leads : before.Leads after)
    (delivered_ne : after.delivered ≠ before.delivered) :
    before.channel.version < after.channel.version := by
  refine lt_of_le_of_ne leads.version_le ?_
  intro version_eq
  have progress_eq := (leads.unchanged version_eq.symm).2
  exact delivered_ne (congrArg Progress.delivered progress_eq)

/-- A publication makes up for a change that only moves the progress forward. -/
theorem leads_publish (script_eq : after.script = before.script)
    (config_eq : after.config = before.config)
    (capacity_eq : after.buffer.capacity = before.buffer.capacity)
    (channel_eq : after.channel = before.channel)
    (progress_leads : before.progress.LeadsTo after.progress) : before.Leads after.publish where
  script_eq := script_eq
  config_eq := config_eq
  capacity_eq := capacity_eq
  progress_leads := progress_leads
  version_le := by simp [publish, Channel.publish, channel_eq]
  unchanged := by simp [publish, Channel.publish, channel_eq]
  published := fun _ => rfl

theorem leads_schedule? (session : Session) (schedule? : Option Schedule) :
    session.Leads { session with schedule? } :=
  ⟨rfl, rfl, rfl, .refl _, le_rfl, fun _ => ⟨rfl, rfl⟩, id⟩

theorem leads_deliver (session : Session) (stamp : Nat → Instant) (line : ScheduledLine) :
    session.Leads (session.deliver stamp line) := by
  by_cases isRunning : session.state = .running
  · rw [deliver_of_running isRunning]
    refine leads_publish rfl rfl rfl rfl ⟨le_rfl, Nat.le_succ _, ?_⟩
    simp only [progress, isRunning, reduceCtorEq, if_false]
    omega
  · rw [deliver_of_not_running isRunning]
    exact .refl session

theorem leads_foldl_deliver (stamp : Nat → Instant) (lines : List ScheduledLine)
    (session : Session) :
    session.Leads (lines.foldl (deliver stamp) session) := by
  induction lines generalizing session with
  | nil => exact .refl session
  | cons line lines ih => exact (leads_deliver session stamp line).trans (ih _)

theorem leads_advance (session : Session) (stamp : Nat → Instant) (now : Nat) :
    session.Leads (session.advance stamp now) :=
  (leads_schedule? session _).trans (leads_foldl_deliver stamp _ _)

theorem leads_advanceTurn (session : Session) (stamp : Nat → Instant) (now : Nat) :
    session.Leads (session.advanceTurn stamp now) := by
  simp only [advanceTurn]
  split
  · exact (leads_schedule? session _).trans (leads_foldl_deliver stamp _ _)
  · exact .refl session

theorem leads_deliverNext (session : Session) (stamp : Nat → Instant) :
    session.Leads (session.deliverNext stamp) := by
  simp only [deliverNext]
  split
  · exact (leads_schedule? session _).trans (leads_deliver _ stamp _)
  · exact .refl session

theorem leads_start (session : Session) (stamp : Nat → Instant) (hasTimer : Bool) (now : Nat) :
    session.Leads (session.start stamp hasTimer now) := by
  cases state_eq : session.state with
  | idle =>
      simp only [start, state_eq]
      split_ifs
      · refine leads_publish rfl rfl (Buffer.capacity_foldl_append _) rfl ⟨?_, le_rfl, ?_⟩ <;>
          simp [progress, state_eq, PlaybackState.rank]
      · refine leads_publish rfl rfl rfl rfl ⟨?_, le_rfl, ?_⟩ <;>
          simp [progress, state_eq, PlaybackState.rank]
  | running => simpa only [start, state_eq] using .refl session
  | stopped => simpa only [start, state_eq] using .refl session

theorem leads_stop (session : Session) : session.Leads session.stop := by
  simp only [stop]
  split_ifs with isStopped
  · exact .refl session
  · refine leads_publish rfl rfl rfl rfl ⟨?_, le_rfl, ?_⟩
    · cases state_eq : session.state <;> simp [progress, state_eq, PlaybackState.rank]
    · simp [progress]

theorem accounts_of_delivered_le
    (delivered_le : session.delivered ≤ session.script.scheduled.length) :
    session.progress.Accounts session.script.scheduled.length := by
  refine ⟨delivered_le, ?_, ?_⟩
  · intro goes_on
    have not_stopped : session.state ≠ .stopped := goes_on
    simp only [progress, if_neg not_stopped]
    omega
  · intro isStopped
    have isStopped : session.state = .stopped := isStopped
    simp only [progress, if_pos isStopped]

/-- Whoever counts no more than what becomes of a session counts right. -/
theorem Leads.accounts (leads : before.Leads after)
    (after_accounts : after.progress.Accounts after.script.scheduled.length) :
    before.progress.Accounts before.script.scheduled.length := by
  apply accounts_of_delivered_le
  rw [← leads.script_eq]
  exact leads.progress_leads.delivered_le.trans after_accounts.delivered_le

end Leads

end Session

namespace Timeline

/-- The timeline after some steps. -/
def afterAll (timeline : Timeline) (stamp : Nat → Instant) (steps : List Step) : Timeline :=
  steps.foldl (fun timeline step => timeline.step stamp step) timeline

theorem leads_afterWait (timeline : Timeline) (stamp : Nat → Instant) (follower limit : Nat) :
    timeline.session.Leads (timeline.afterWait stamp follower limit).session := by
  simp only [afterWait]
  split_ifs
  · exact Session.leads_advance timeline.session stamp timeline.now
  · exact .refl timeline.session
  · split
    · exact (Session.leads_advanceTurn timeline.session stamp _).trans
        (Session.leads_advance _ stamp _)
    · exact Session.leads_advance timeline.session stamp _

theorem leads_step (timeline : Timeline) (stamp : Nat → Instant) (step : Step) :
    timeline.session.Leads (timeline.step stamp step).session := by
  simp only [Timeline.step]
  split_ifs
  · cases step with
    | look => exact .refl timeline.session
    | start => exact Session.leads_start timeline.session stamp timeline.hasTimer timeline.now
    | stop => exact Session.leads_stop timeline.session
    | drop => exact Session.leads_stop timeline.session
    | advance milliseconds => exact Session.leads_advance timeline.session stamp _
    | subscribe => exact .refl timeline.session
    | observe follower => exact .refl timeline.session
    | wait follower limit => exact leads_afterWait timeline stamp follower limit
    | render => exact .refl timeline.session
  · exact .refl timeline.session

/-- A run of steps moves the session of a timeline forward. -/
theorem leads_afterAll (timeline : Timeline) (stamp : Nat → Instant) (steps : List Step) :
    timeline.session.Leads (timeline.afterAll stamp steps).session := by
  induction steps generalizing timeline with
  | nil => exact .refl timeline.session
  | cons step steps ih => exact (leads_step timeline stamp step).trans (ih _)

end Timeline

end ScriptedFeed
