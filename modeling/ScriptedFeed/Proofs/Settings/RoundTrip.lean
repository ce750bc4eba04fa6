import ScriptedFeed.Proofs.Json.Accuracy
import ScriptedFeed.Proofs.Settings.Document

/-!
# The speed that is loaded of settings that have been saved

A finite speed is written as the shortest decimal that rounds to it. Reading the file rounds more
than once, so another speed can come back. It is the same speed where the digits and the power of
ten of the decimal are numbers of the format, and otherwise it is not far away. The sign, the
capacity and the colour always come back.
-/

namespace ScriptedFeed

namespace Settings

variable {settings : Settings} {tree saved : FileTree} {path : String} {negative : Bool}
  {magnitude read : Magnitude}

theorem eq_with_speed_iff (speed_eq : settings.speed = .finite negative magnitude) :
    { settings with speed := .finite negative read } = settings ↔ read = magnitude := by
  rcases settings with ⟨capacity, speed, usesColor⟩
  simp only at speed_eq
  simp [speed_eq]

/--
Settings with a finite speed are loaded from the path where they have been saved but for the speed,
whose sign is kept and whose magnitude is what the written digits are read as. This is the saved
magnitude if the digits are exact, and never more than eight steps of its grid away from it.
-/
theorem saved_speed_is_read_back (done : settings.saveTo tree path = (saved, .ok ()))
    (speed_eq : settings.speed = .finite negative magnitude) :
    ∃ read, (Json.writtenDigits magnitude.shortest).magnitude? = some read ∧
      loadFrom saved path = { settings with speed := .finite negative read } ∧
      loadNotices saved path = [] ∧
      (loadFrom saved path = settings ↔ read = magnitude) ∧
      ((Json.writtenDigits magnitude.shortest).IsExact → loadFrom saved path = settings) ∧
      |(read.units : ℤ) - magnitude.units| ≤ 8 * 2 ^ unusedBits magnitude.units := by
  rcases Json.exists_magnitude?_writtenDigits magnitude with ⟨read, found⟩
  have file_eq := ofFile_of_speed_eq (contentOf_of_saveTo done) speed_eq found
  have nonzero := capacity_ne_zero_of_saveTo done
  rcases loadFrom_of_ofFile_ok (holds_of_saveTo done) file_eq nonzero with ⟨loaded_eq, notices_eq⟩
  refine ⟨read, found, loaded_eq, notices_eq, ?_, ?_, Json.abs_units_sub_le found⟩
  · rw [loaded_eq]
    exact eq_with_speed_iff speed_eq
  · intro isExact
    rw [loaded_eq]
    exact (eq_with_speed_iff speed_eq).2 (isExact.eq (Json.value_writtenDigits _) found)

/-- A tenth is no number of the format, but its digit and its power of ten are. -/
theorem saved_speed_is_read_back_at_a_tenth :
    let tenth : Magnitude := ⟨0x1999999999999a * 2 ^ 1018, by decide +kernel⟩
    let settings : Settings := ⟨12, .finite true tenth, false⟩
    ∃ saved, settings.saveTo .empty "settings.json" = (saved, .ok ()) ∧
      tenth.shortest = ⟨1, -1⟩ ∧ loadFrom saved "settings.json" = settings := by
  intro tenth settings
  obtain ⟨saved, done⟩ : ∃ saved, settings.saveTo .empty "settings.json" = (saved, .ok ()) :=
    ⟨_, rfl⟩
  have isExact : (Json.writtenDigits tenth.shortest).IsExact := by decide +kernel
  rcases saved_speed_is_read_back done rfl with ⟨-, -, -, -, -, same, -⟩
  exact ⟨saved, done, by decide +kernel, same isExact⟩

/-- A speed whose digits are not exact can come back one step of its grid smaller. -/
theorem saved_speed_comes_back_smaller :
    let speed : Magnitude := ⟨0x1ec5ac75983ac9 * 2 ^ 1021, by decide +kernel⟩
    let smaller : Magnitude := ⟨0x1ec5ac75983ac8 * 2 ^ 1021, by decide +kernel⟩
    let settings : Settings := ⟨12, .finite false speed, false⟩
    let path := "nested/deep/settings.json"
    ∃ saved, settings.saveTo .empty path = (saved, .ok ()) ∧
      Json.floatText settings.speed = "0.9616300865908097".toList ∧
      loadFrom saved path = { settings with speed := .finite false smaller } ∧
      loadFrom saved path ≠ settings := by
  refine ⟨_, rfl, ?_⟩
  decide +kernel

end Settings

end ScriptedFeed
