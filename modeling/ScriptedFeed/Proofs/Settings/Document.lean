import ScriptedFeed.Proofs.Json.Float
import ScriptedFeed.Proofs.Json.Record
import ScriptedFeed.Proofs.Settings.Store

/-!
# What is loaded of settings that have been saved

Settings are written in a document with three members, and read back member by member. The capacity
and the colour are read as they were, and so is some speed, as long as the speed is a finite
number. Every other speed is written as the word for nothing, which no speed is read from. The file
then holds no settings at all, and the standard ones take the place of all three members.
-/

namespace ScriptedFeed

namespace Settings

variable {settings : Settings} {tree saved : FileTree} {path : String}

section Reading

open Json

theorem skipsBlanks_shape (member : Member Draft) (member_mem : member ∈ shape.members)
    (gathered : Draft) : SkipsBlanks (member.readInto gathered) := by
  simp only [shape, List.mem_cons, List.not_mem_nil, or_false] at member_mem
  rcases member_mem with rfl | rfl | rfl
  · exact (skipsBlanks_readUnsignedAs "usize").bind _
  · exact skipsBlanks_readFloat.bind _
  · exact skipsBlanks_readFlag.bind _

theorem gathers_color (capacity? : Option UInt64) (speed? : Option Binary64) (usesColor : Bool) :
    Gathers shape [("color", writeFlag usesColor)] ⟨capacity?, speed?, none⟩
      (.ok ⟨capacity?, speed?, some usesColor⟩) := by
  have reads := (reads_writeFlag usesColor).map fun usesColor =>
    (⟨capacity?, speed?, some usesColor⟩ : Draft)
  exact .cons_ok _ rfl rfl reads (.nil _)

theorem gathers_speed {outcome : Except Fault Binary64} (capacity? : Option UInt64)
    (usesColor : Bool) {speed : Binary64}
    (speed_reads : Reads Json.readFloat (floatText speed) outcome) :
    Gathers shape [("speed", floatText speed), ("color", writeFlag usesColor)]
      ⟨capacity?, none, none⟩
      (outcome.map fun speed => ⟨capacity?, some speed, some usesColor⟩) := by
  have gathers : Gathers shape [("speed", floatText speed), ("color", writeFlag usesColor)]
      ⟨capacity?, none, none⟩
      ((outcome.map fun speed => (⟨capacity?, some speed, none⟩ : Draft)) >>= fun next =>
        .ok ⟨capacity?, next.speed?, some usesColor⟩) := by
    have reads := speed_reads.map fun speed => (⟨capacity?, some speed, none⟩ : Draft)
    refine .cons _ rfl rfl reads ?_
    intro next next_eq
    cases outcome with
    | error fault => cases next_eq
    | ok speed =>
        cases next_eq
        exact gathers_color capacity? (some speed) usesColor
  cases outcome <;> exact gathers

/-- The settings are read back but for the speed, which is what the outcome of reading it is. -/
theorem reads_writeLines {outcome : Except Fault Binary64}
    (speed_reads : Reads Json.readFloat (floatText settings.speed) outcome) :
    Reads read settings.writeLines (outcome.map fun speed => { settings with speed }) := by
  have capacity_reads := (reads_readUnsignedAs "usize" settings.capacity).map fun capacity =>
    (⟨some capacity, none, none⟩ : Draft)
  have gathers : Gathers shape settings.writtenMembers shape.start (outcome.map fun speed =>
      ⟨some settings.capacity, some speed, some settings.usesColor⟩) :=
    .cons_ok _ rfl rfl capacity_reads (gathers_speed _ settings.usesColor speed_reads)
  have reads := gathers.reads_writeObjectLines (Layout.lines.suits_of_skipsBlanks skipsBlanks_shape)
  cases outcome <;> exact reads

end Reading

theorem readDocument_fileContent {outcome : Except Json.Fault Binary64}
    (speed_reads : Json.Reads Json.readFloat (Json.floatText settings.speed) outcome) :
    (Json.readDocument read settings.fileContent).mapError Json.Error.fault =
      outcome.map fun speed => { settings with speed } :=
  (reads_writeLines speed_reads).readDocument_eq

theorem ofFile_of_contentOf (content_eq : tree.contentOf path = .ok settings.fileContent) :
    ofFile tree path = (Json.readDocument read settings.fileContent).mapError .json := by
  have decoded : Text.decodeUtf8? settings.fileContent = some settings.writeLines :=
    Text.decodeUtf8?_encodeUtf8 _
  simp [ofFile, content_eq, decoded, Except.mapError]

theorem loadFrom_of_ofFile_ok {loaded : Settings} (holds : tree.holds path)
    (loaded_eq : ofFile tree path = .ok loaded) (nonzero : loaded.capacity ≠ 0) :
    loadFrom tree path = loaded ∧ loadNotices tree path = [] := by
  simp [loadFrom, loadNotices, holds, loaded_eq, usable, nonzero]

theorem loadFrom_of_ofFile_error {fault : LoadFault} (holds : tree.holds path)
    (refused : ofFile tree path = .error fault) :
    loadFrom tree path = standard ∧ loadNotices tree path = [faultNotice path fault] := by
  simp [loadFrom, loadNotices, holds, refused]

/-- Settings with a finite speed are read back with the speed that its digits are read as. -/
theorem ofFile_of_speed_eq {negative : Bool} {magnitude read : Magnitude}
    (content_eq : tree.contentOf path = .ok settings.fileContent)
    (speed_eq : settings.speed = .finite negative magnitude)
    (found : (Json.writtenDigits magnitude.shortest).magnitude? = some read) :
    ofFile tree path = .ok { settings with speed := .finite negative read } := by
  have speed_reads := Json.reads_floatText negative found
  rw [← speed_eq] at speed_reads
  have document_eq := readDocument_fileContent speed_reads
  rw [ofFile_of_contentOf content_eq]
  cases result_eq : Json.readDocument Settings.read settings.fileContent with
  | error error =>
      rw [result_eq] at document_eq
      cases document_eq
  | ok loaded =>
      rw [result_eq] at document_eq
      cases document_eq
      rfl

theorem exists_ofFile_of_isFinite (content_eq : tree.contentOf path = .ok settings.fileContent)
    (isFinite : settings.speed.isFinite) :
    ∃ speed : Binary64, speed.isFinite ∧ ofFile tree path = .ok { settings with speed } := by
  cases speed_eq : settings.speed with
  | nan => simp [speed_eq, Binary64.isFinite] at isFinite
  | infinite negative => simp [speed_eq, Binary64.isFinite] at isFinite
  | finite negative magnitude =>
      rcases Json.exists_magnitude?_writtenDigits magnitude with ⟨read, found⟩
      exact ⟨.finite negative read, rfl, ofFile_of_speed_eq content_eq speed_eq found⟩

theorem exists_ofFile_of_not_isFinite (content_eq : tree.contentOf path = .ok settings.fileContent)
    (not_finite : settings.speed.isFinite = false) :
    ∃ error : Json.Error, error.fault = .wrongType .null "f64" ∧
      ofFile tree path = .error (.json error) := by
  have document_eq :=
    readDocument_fileContent (Json.reads_floatText_of_not_isFinite not_finite)
  rw [ofFile_of_contentOf content_eq]
  cases result_eq : Json.readDocument read settings.fileContent with
  | error error =>
      rw [result_eq] at document_eq
      simp only [Except.mapError, Except.map, Except.error.injEq] at document_eq
      exact ⟨error, document_eq, rfl⟩
  | ok loaded =>
      rw [result_eq] at document_eq
      cases document_eq

/--
Settings that have been saved are loaded from the same path with their capacity and colour, and
nothing is reported, exactly if their speed is a finite number. If it is not, what has been saved
is reported as unreadable, and the standard settings are loaded.
-/
theorem load_after_save (done : settings.saveTo tree path = (saved, .ok ())) :
    (settings.speed.isFinite →
      ∃ speed : Binary64, speed.isFinite ∧ ofFile saved path = .ok { settings with speed } ∧
        loadFrom saved path = { settings with speed } ∧ loadNotices saved path = []) ∧
    (¬settings.speed.isFinite →
      ∃ error : Json.Error, error.fault = .wrongType .null "f64" ∧
        ofFile saved path = .error (.json error) ∧ loadFrom saved path = standard ∧
        loadNotices saved path = [faultNotice path (.json error)]) := by
  have holds := holds_of_saveTo done
  have content_eq := contentOf_of_saveTo done
  constructor
  · intro isFinite
    rcases exists_ofFile_of_isFinite content_eq isFinite with ⟨speed, read_finite, loaded_eq⟩
    have nonzero := capacity_ne_zero_of_saveTo done
    exact ⟨speed, read_finite, loaded_eq, loadFrom_of_ofFile_ok holds loaded_eq nonzero⟩
  · intro not_finite
    rw [Bool.not_eq_true] at not_finite
    rcases exists_ofFile_of_not_isFinite content_eq not_finite with ⟨error, fault_eq, refused⟩
    exact ⟨error, fault_eq, refused, loadFrom_of_ofFile_error holds refused⟩

theorem load_after_save_at_largest_speed :
    let settings : Settings := ⟨12, .finite true .largest, false⟩
    ∃ saved, settings.saveTo .empty "settings.json" = (saved, .ok ()) ∧
      (loadFrom saved "settings.json").capacity = 12 ∧
      (loadFrom saved "settings.json").usesColor = false := by
  intro settings
  rcases done : settings.saveTo .empty "settings.json" with ⟨saved, error | _⟩
  · have isOk : (settings.saveTo .empty "settings.json").2.isOk := by decide +kernel
    simp [done, Except.isOk, Except.toBool] at isOk
  · rcases (load_after_save done).1 (by simp [settings, Binary64.isFinite]) with
      ⟨speed, -, -, loaded_eq, -⟩
    refine ⟨saved, rfl, ?_⟩
    rw [loaded_eq]
    exact ⟨rfl, rfl⟩

/-- A speed that is not a number takes the capacity and the colour with it. -/
theorem saved_settings_lost_with_speed :
    let settings : Settings := ⟨12, .nan, false⟩
    ∃ saved, settings.saveTo .empty "settings.json" = (saved, .ok ()) ∧
      (loadFrom saved "settings.json").capacity ≠ settings.capacity ∧
      (loadFrom saved "settings.json").usesColor ≠ settings.usesColor ∧
      loadFrom saved "settings.json" = standard ∧ loadNotices saved "settings.json" ≠ [] := by
  refine ⟨_, rfl, ?_⟩
  decide +kernel

end Settings

end ScriptedFeed
