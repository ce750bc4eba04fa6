import ScriptedFeed.Proofs.Settings.Store

/-!
# Saving settings changes one file

Saving is a sequence of operations of which each may fail: directories are created from the outside
to the inside, and then the file is written. Up to the last of them only free places have been
filled, with directories, so that a failure leaves every file as it was. The last one changes the
place of the file and no other.
-/

namespace ScriptedFeed

namespace Settings

/-- What is kept in a file is an object with one member a line. -/
theorem writeLines_eq (settings : Settings) :
    settings.writeLines =
      "\x7b\n  \"capacity\": ".toList ++ decimalDigits settings.capacity.toNat ++
      ",\n  \"speed\": ".toList ++ Json.floatText settings.speed ++
      ",\n  \"color\": ".toList ++ Json.writeFlag settings.usesColor ++ "\n\x7d".toList := by
  simp [writeLines, writtenMembers, Json.writeObjectLines, Json.separated, Json.writeMemberLine,
    Json.writeText, Json.writeChar]

/--
Settings that have been saved are all that the file at the path holds, and it takes the place of a
file or of nothing. Every other place holds what it held, but for missing directories around the
path, and every path to another file or directory leads there still. Where saving fails this is so
for all places; and settings with which a feed would show no line change nothing at all.
-/
theorem saving_touches_only_target (settings : Settings) (tree : FileTree) (path : String) :
    let later := (settings.saveTo tree path).1
    let result := (settings.saveTo tree path).2
    (result = .ok () →
      later.contentOf path = .ok (Text.encodeUtf8 (
        "\x7b\n  \"capacity\": ".toList ++ decimalDigits settings.capacity.toNat ++
        ",\n  \"speed\": ".toList ++ Json.floatText settings.speed ++
        ",\n  \"color\": ".toList ++ Json.writeFlag settings.usesColor ++ "\n\x7d".toList)) ∧
      ∃ place, later.target path = .ok (.taken place (.file settings.fileContent)) ∧
        tree.get? place ≠ some .directory ∧
        (∀ other ≠ place, FileTree.KeptAt path tree later other) ∧
        ∀ otherPath other node, other ≠ place →
          tree.target otherPath = .ok (.taken other node) →
          later.target otherPath = .ok (.taken other node)) ∧
    (∀ error, result = .error error →
      (∀ place, FileTree.KeptAt path tree later place) ∧
      ∀ otherPath other node, tree.target otherPath = .ok (.taken other node) →
        later.target otherPath = .ok (.taken other node)) ∧
    (settings.capacity = 0 → result = .error .zeroCapacity ∧ later = tree) := by
  intro later result
  refine ⟨?_, ?_, ?_⟩
  · intro result_eq
    have done : settings.saveTo tree path = (later, .ok ()) := Prod.ext rfl result_eq
    rcases exists_writeFile_of_saveTo done with ⟨-, before, adds, written⟩
    rcases adds.exists_hasWritten written with ⟨place, has⟩
    rw [← writeLines_eq]
    exact ⟨contentOf_of_saveTo done, place, has.target_eq, has.not_directory, has.kept,
      fun _ _ _ => has.target_of_ne⟩
  · intro error result_eq
    have failed : settings.saveTo tree path = (later, .error error) := Prod.ext rfl result_eq
    have adds := addsAround_of_saveTo_error failed
    exact ⟨adds.kept, fun _ _ _ => adds.target_eq⟩
  · intro zero
    simp only [result, later, saveTo, zero, if_true, and_self]

/-- Directories are created for the settings, and a file beside them is found again. -/
theorem saving_touches_only_target_beside_file :
    let tree : FileTree := ⟨[(["notes.txt"], .file [0x61])], []⟩
    let later := (standard.saveTo tree "a/b/settings.json").1
    later.contentOf "a/b/settings.json" = .ok standard.fileContent ∧
      later.target "notes.txt" = .ok (.taken ["notes.txt"] (.file [0x61])) := by
  intro tree later
  rcases (saving_touches_only_target standard tree "a/b/settings.json").1 (by decide +kernel) with
    ⟨content_eq, place, target_eq, -, -, found⟩
  rw [← writeLines_eq] at content_eq
  refine ⟨content_eq, found "notes.txt" ["notes.txt"] (.file [0x61]) ?_ (by rfl)⟩
  rintro rfl
  have found_below : later.target "a/b/settings.json" =
      .ok (.taken ["settings.json", "b", "a"] (.file standard.fileContent)) := by
    rfl
  have same_place := found_below.symm.trans target_eq
  simp at same_place

end Settings

end ScriptedFeed
