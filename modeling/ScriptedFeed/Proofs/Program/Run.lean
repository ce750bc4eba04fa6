import ScriptedFeed.Program.Run
import ScriptedFeed.Proofs.CommandLine.Options
import ScriptedFeed.Proofs.Settings.Store

/-!
# What a run does to the settings that are kept

The settings are saved as the last step of the preparation, so whatever fails before leaves the
file tree as it was. What is saved are the settings that were found, with what the arguments
override, and nothing else is done to the file.
-/

namespace ScriptedFeed

variable {options : Options} {tree : FileTree} {home : Settings.Home} {script : Script}

namespace Preparation

theorem tree_ofOptions_without_saving (without : options.savesSettings = false) :
    (ofOptions options tree home).tree = tree := by
  simp only [ofOptions, without]
  split
  · rfl
  · split <;> rfl

theorem tree_ofOptions_of_script_error {failure : StartFailure}
    (failed : (options.loadScript tree).1 = .error failure) :
    (ofOptions options tree home).tree = tree := by
  simp [ofOptions, failed]

theorem tree_ofOptions_of_create_error {error : PlaybackError}
    (loaded : (options.loadScript tree).1 = .ok script)
    (failed : Session.create script (options.effective (Settings.load tree home)).playbackConfig =
      .error error) :
    (ofOptions options tree home).tree = tree := by
  simp [ofOptions, loaded, failed]

theorem tree_saveFor (session : Session) (settings : Settings) (tree : FileTree)
    (home : Settings.Home) :
    (saveFor session settings tree home).tree = (settings.save tree home).1 := by
  rw [saveFor]
  split <;> simp_all

/-- After a session has been created, the tree is the one that saving leaves. -/
theorem tree_ofOptions_of_create {session : Session} (saves : options.savesSettings = true)
    (loaded : (options.loadScript tree).1 = .ok script)
    (created : Session.create script (options.effective (Settings.load tree home)).playbackConfig =
      .ok session) :
    (ofOptions options tree home).tree =
      ((options.effective (Settings.load tree home)).save tree home).1 := by
  simp [ofOptions, loaded, created, saves, after, tree_saveFor]

end Preparation

namespace Ending

variable {surroundings : Surroundings} {arguments : List String}

/-- Playing does not touch the file tree. -/
theorem tree_ofArguments (accepted : Request.ofArguments arguments = .play options) :
    (ofArguments surroundings arguments).tree =
      (Preparation.ofOptions options surroundings.tree surroundings.home).tree := by
  rw [ofArguments, accepted]
  simp only [ofOptions]
  split <;> rfl

/--
A run whose arguments are accepted leaves every file alone unless it is asked to save the settings,
the script can be loaded and a session accepts the script and the settings. If that is so and the
settings can be saved, their file holds what was found there before the run, with the speed and the
capacity replaced by those among the arguments and with colour turned off if this is among them. If
saving fails, every file is as it was.
-/
theorem settings_file_after_run (surroundings : Surroundings)
    (accepted : Request.ofArguments arguments = .play options) :
    let found := Settings.load surroundings.tree surroundings.home
    let wanted : Settings := {
      capacity := options.capacity?.getD found.capacity
      speed := options.speed?.getD found.speed
      usesColor := if "--no-color" ∈ arguments then false else found.usesColor }
    let result := (options.loadScript surroundings.tree).1
    let ending := ofArguments surroundings arguments
    ("--save-settings" ∉ arguments ∨ (∃ failure, result = .error failure) ∨
      (∃ script error, result = .ok script ∧
        Session.create script wanted.playbackConfig = .error error) →
      ending.tree = surroundings.tree) ∧
    ∀ script session, "--save-settings" ∈ arguments → result = .ok script →
      Session.create script wanted.playbackConfig = .ok session →
      (∀ saved path, wanted.save surroundings.tree surroundings.home = (saved, .ok path) →
        surroundings.home.settingsPath? = some path ∧
          ending.tree.contentOf path = .ok wanted.fileContent) ∧
      ∀ left error, wanted.save surroundings.tree surroundings.home = (left, .error error) →
        surroundings.tree.SameFiles ending.tree := by
  intro found wanted result ending
  have saves_iff : options.savesSettings = true ↔ "--save-settings" ∈ arguments :=
    Request.has_of_ofArguments (.inr (.inr rfl)) accepted
  have hides_iff : options.hidesColor = true ↔ "--no-color" ∈ arguments :=
    Request.has_of_ofArguments (.inl rfl) accepted
  have wanted_eq : options.effective found = wanted := by
    by_cases hides : options.hidesColor = true
    · simp [Options.effective, wanted, hides, hides_iff.1 hides]
    · simp [Options.effective, wanted, hides, mt hides_iff.2 hides]
  have tree_eq : ending.tree = _ := tree_ofArguments accepted
  constructor
  · rintro (without | ⟨failure, failed⟩ | ⟨script, error, loaded, failed⟩)
    · rw [tree_eq]
      apply Preparation.tree_ofOptions_without_saving
      simpa using mt saves_iff.1 without
    · rw [tree_eq]
      exact Preparation.tree_ofOptions_of_script_error failed
    · rw [tree_eq]
      rw [← wanted_eq] at failed
      exact Preparation.tree_ofOptions_of_create_error loaded failed
  · intro script session saves loaded created
    rw [← wanted_eq] at created
    have saved_eq := Preparation.tree_ofOptions_of_create (saves_iff.2 saves) loaded created
    rw [wanted_eq] at saved_eq
    rw [tree_eq, saved_eq]
    constructor
    · intro saved path done
      rcases Settings.saveTo_of_save done with ⟨path_eq, saveTo_eq⟩
      rw [done]
      exact ⟨path_eq, Settings.contentOf_of_saveTo saveTo_eq⟩
    · intro left error failed
      rw [failed]
      exact Settings.sameFiles_of_save_error failed

/-- A file that holds only the speed is completed by what the arguments ask for. -/
theorem settings_file_after_run_over_partial_file :
    let surroundings : Surroundings := {
      tree := ⟨[(["cfg"], .directory), (["tesser-terminal", "cfg"], .directory),
        (["settings.json", "tesser-terminal", "cfg"],
          .file (Text.encodeUtf8 "\x7b\"speed\": 2.5\x7d".toList))], []⟩
      home := ⟨none, some "/cfg"⟩
      noticeRules? := none
      stamp := fun _ => .epoch
      logTime := ""
      interruptAfter? := none }
    (ofArguments surroundings ["--save-settings", "--capacity", "3", "--no-color"]).tree.contentOf
        "/cfg/tesser-terminal/settings.json" =
      .ok (Text.encodeUtf8
        "\x7b\n  \"capacity\": 3,\n  \"speed\": 2.5,\n  \"color\": false\n\x7d".toList) := by
  intro surroundings
  let wanted : Settings := ⟨3, (Settings.load surroundings.tree surroundings.home).speed, false⟩
  have created : Session.create .landing wanted.playbackConfig = .ok _ := rfl
  rcases done : wanted.save surroundings.tree surroundings.home with ⟨saved, error | path⟩
  · have isOk : (wanted.save surroundings.tree surroundings.home).2.isOk := by decide +kernel
    simp [done, Except.isOk, Except.toBool] at isOk
  have accepted : Request.ofArguments ["--save-settings", "--capacity", "3", "--no-color"] =
      .play ⟨none, none, some 3, true, false, true⟩ := by decide +kernel
  have kept := (settings_file_after_run surroundings accepted).2 .landing _ (by simp) rfl created
  rcases kept.1 saved path done with ⟨path_eq, content_eq⟩
  have place_eq : surroundings.home.settingsPath? =
      some "/cfg/tesser-terminal/settings.json" := by decide +kernel
  rw [place_eq, Option.some_inj] at path_eq
  rw [path_eq, content_eq]
  decide +kernel

end Ending

end ScriptedFeed
