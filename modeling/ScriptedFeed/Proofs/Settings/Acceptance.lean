import ScriptedFeed.Playback.Session
import ScriptedFeed.Proofs.Settings.Store

/-!
# Which of the kept settings a session accepts

Loading and saving only look out for a capacity of zero. A session also needs room for its feed,
so a capacity that is too large is kept like any other, and no session can be created with it.
-/

namespace ScriptedFeed

namespace Session

theorem exists_create {config : PlaybackConfig} (script : Script) (nonzero : config.capacity ≠ 0)
    (roomy : config.capacity < Buffer.capacityBound) :
    ∃ session, create script config = .ok session := by
  simp only [create, Buffer.create, if_neg nonzero, if_neg (UInt64.not_le.2 roomy)]
  exact ⟨_, rfl⟩

theorem create_eq_capacityOverflow {config : PlaybackConfig} (script : Script)
    (tooLarge : Buffer.capacityBound ≤ config.capacity) :
    create script config = .error .capacityOverflow := by
  have nonzero : config.capacity ≠ 0 := by
    rintro zero
    rw [zero] at tooLarge
    exact absurd tooLarge (by decide)
  simp only [create, Buffer.create, if_neg nonzero, if_pos tooLarge]
  rfl

end Session

namespace Settings

variable {settings : Settings} {tree later : FileTree} {path : String}

theorem capacity_usable_ne_zero (settings : Settings) : settings.usable.capacity ≠ 0 := by
  rw [usable]
  split_ifs with zero
  · simp [PlaybackConfig.defaultCapacity]
  · exact zero

theorem capacity_loadFrom_ne_zero (tree : FileTree) (path : String) :
    (loadFrom tree path).capacity ≠ 0 := by
  have standard_ne_zero : standard.capacity ≠ 0 := by decide
  rw [loadFrom]
  split
  · split
    · exact capacity_usable_ne_zero _
    · exact standard_ne_zero
  · exact standard_ne_zero

/-- Whether a session is created with settings depends on nothing but the room for the feed. -/
def NeedOnlyRoom (settings : Settings) : Prop :=
  ∀ script,
    (settings.capacity < Buffer.capacityBound →
      ∃ session, Session.create script settings.playbackConfig = .ok session) ∧
    (Buffer.capacityBound ≤ settings.capacity →
      Session.create script settings.playbackConfig = .error .capacityOverflow)

theorem needOnlyRoom (nonzero : settings.capacity ≠ 0) : settings.NeedOnlyRoom := by
  intro script
  constructor
  · intro roomy
    exact Session.exists_create script nonzero roomy
  · intro tooLarge
    exact Session.create_eq_capacityOverflow script tooLarge

/--
Whatever there is at the path from which settings are loaded, a session accepts them if there is
room for the feed, and so it does with settings that have been saved.
-/
theorem kept_settings_need_only_room (tree : FileTree) (path : String) :
    (loadFrom tree path).NeedOnlyRoom ∧
      ∀ settings later, saveTo settings tree path = (later, .ok ()) → settings.NeedOnlyRoom := by
  constructor
  · exact needOnlyRoom (capacity_loadFrom_ne_zero tree path)
  · intro settings later done
    exact needOnlyRoom (capacity_ne_zero_of_saveTo done)

theorem kept_settings_need_only_room_at_capacity_twelve :
    ∃ session, Session.create .landing (playbackConfig ⟨12, .nan, false⟩) = .ok session := by
  have needs := (kept_settings_need_only_room .empty "settings.json").2 ⟨12, .nan, false⟩ _ rfl
  exact (needs .landing).1 (by decide)

/-- A capacity for which there is no room passes both ways and is then refused. -/
theorem oversized_settings_are_kept :
    let settings : Settings := ⟨0x1000000000000000, .one, true⟩
    ∃ later, settings.saveTo .empty "settings.json" = (later, .ok ()) ∧
      loadFrom later "settings.json" = settings ∧
      ∀ script, Session.create script settings.playbackConfig = .error .capacityOverflow := by
  intro settings
  refine ⟨_, rfl, ?_, ?_⟩
  · decide +kernel
  · intro script
    exact Session.create_eq_capacityOverflow script (by decide)

end Settings

end ScriptedFeed
