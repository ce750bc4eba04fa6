import ScriptedFeed.Proofs.Storage.Directories
import ScriptedFeed.Settings.Store

/-!
# What saving settings does to the file tree

Saving creates directories, which changes no file, and then writes the file as a whole. So either
the file holds exactly the settings that were saved, or every file is as it was before.
-/

namespace ScriptedFeed

namespace Settings

variable {settings : Settings} {tree later : FileTree} {home : Home} {path : String}
  {error : SaveError}

theorem writeFile_of_writeTo (written : settings.writeTo tree path = (later, .ok ())) :
    tree.writeFile path settings.fileContent = .ok later := by
  rw [writeTo] at written
  split at written
  · next saved_eq =>
      cases written
      exact saved_eq
  · cases written

theorem eq_of_writeTo_error (failed : settings.writeTo tree path = (later, .error error)) :
    later = tree := by
  rw [writeTo] at failed
  split at failed
  · cases failed
  · cases failed
    rfl

/-- Settings are written in a tree that has further directories at most. -/
theorem exists_writeFile_of_saveTo (done : settings.saveTo tree path = (later, .ok ())) :
    settings.capacity ≠ 0 ∧
      ∃ before, tree.AddsAround path before ∧
        before.writeFile path settings.fileContent = .ok later := by
  rw [saveTo] at done
  split_ifs at done with zero
  · cases done
  refine ⟨zero, ?_⟩
  split at done
  · exact ⟨tree, .refl path tree, writeFile_of_writeTo done⟩
  · next parent parent_eq =>
      have adds := FileTree.AddsAround.createDirectories tree (.parent parent_eq)
      split at done
      · next before created =>
          rw [created] at adds
          exact ⟨before, adds, writeFile_of_writeTo done⟩
      · cases done

theorem capacity_ne_zero_of_saveTo (done : settings.saveTo tree path = (later, .ok ())) :
    settings.capacity ≠ 0 :=
  (exists_writeFile_of_saveTo done).1

/-- The file that settings are saved to holds these settings and nothing else. -/
theorem contentOf_of_saveTo (done : settings.saveTo tree path = (later, .ok ())) :
    later.contentOf path = .ok settings.fileContent := by
  rcases exists_writeFile_of_saveTo done with ⟨-, before, -, written⟩
  exact FileTree.contentOf_of_writeFile written

theorem holds_of_saveTo (done : settings.saveTo tree path = (later, .ok ())) :
    later.holds path := by
  rcases exists_writeFile_of_saveTo done with ⟨-, before, -, written⟩
  exact FileTree.holds_of_writeFile written

/-- Where saving fails, it has created directories at most. -/
theorem addsAround_of_saveTo_error (failed : settings.saveTo tree path = (later, .error error)) :
    tree.AddsAround path later := by
  rw [saveTo] at failed
  split_ifs at failed
  · cases failed
    exact .refl path tree
  · split at failed
    · rw [eq_of_writeTo_error failed]
      exact .refl path tree
    · next parent parent_eq =>
        have adds := FileTree.AddsAround.createDirectories tree (.parent parent_eq)
        split at failed
        · next before created =>
            rw [created] at adds
            rwa [eq_of_writeTo_error failed]
        · next created =>
            rw [created] at adds
            cases failed
            exact adds

theorem saveTo_of_save (done : settings.save tree home = (later, .ok path)) :
    home.settingsPath? = some path ∧ settings.saveTo tree path = (later, .ok ()) := by
  rw [save] at done
  split at done
  · next place place_eq =>
      rcases saved_eq : settings.saveTo tree place with ⟨saved, error | _⟩
      · simp [saved_eq, Except.map] at done
      · simp only [saved_eq, Except.map, Prod.mk.injEq, Except.ok.injEq] at done
        rcases done with ⟨rfl, rfl⟩
        exact ⟨place_eq, saved_eq⟩
  · cases done

theorem sameFiles_of_save_error (failed : settings.save tree home = (later, .error error)) :
    tree.SameFiles later := by
  rw [save] at failed
  split at failed
  · next place _ =>
      rcases saved_eq : settings.saveTo tree place with ⟨saved, fault | _⟩
      · simp only [saved_eq, Except.map, Prod.mk.injEq] at failed
        rw [← failed.1]
        exact (addsAround_of_saveTo_error saved_eq).sameFiles
      · simp [saved_eq, Except.map] at failed
  · cases failed
    exact .refl tree

end Settings

end ScriptedFeed
