import ScriptedFeed.Proofs.Storage.FileTree

/-!
# Creating directories leaves everything else alone

A directory is created together with the directories around it that are missing. Each of them is put
at a place that was free, so nothing that was there before is replaced, and whatever led to a
directory leads there still. This also makes the new places known: each is where one of the paths
leads that were tried on the way.
-/

namespace ScriptedFeed

/-- The directory that should hold what a path names, or one of the directories around it. -/
inductive Path.IsAround (path : String) : String → Prop where
  | parent {directory : String} (parent_eq : Path.parent? path = some directory) :
      IsAround path directory
  | further {directory outer : String} (isAround : IsAround path directory)
      (parent_eq : Path.parent? directory = some outer) : IsAround path outer

namespace FileTree

variable {tree middle later : FileTree} {path directory : String} {start place : Place}
  {node : Node} {steps : List PathStep}

/-- Every place that held a directory holds one. -/
def KeepsDirectories (tree later : FileTree) : Prop :=
  ∀ place, tree.get? place = some .directory → later.get? place = some .directory

section Paths

theorem follow_of_staysHere (stays : staysHere steps) :
    tree.follow place .directory steps = .ok (.taken place .directory) := by
  induction steps with
  | nil => rfl
  | cons step steps ih =>
      simp only [staysHere, List.all_cons, Bool.and_eq_true, decide_eq_true_eq] at stays
      rw [stays.1]
      exact ih stays.2

/-- The way to what a place holds passes directories only. -/
theorem follow_of_keepsDirectories (keeps : tree.KeepsDirectories later)
    (kept : ∀ content, tree.get? place = some (.file content) →
      later.get? place = some (.file content))
    (followed : tree.follow start .directory steps = .ok (.taken place node)) :
    later.follow start .directory steps = .ok (.taken place node) := by
  induction steps generalizing start with
  | nil => exact followed
  | cons step steps ih =>
      cases step with
      | here => exact ih followed
      | up => exact ih followed
      | down name =>
          rcases follow_down_eq_ok followed with
            ⟨short, ⟨found, followed⟩ | ⟨old, found, rfl, target_eq⟩ | ⟨-, -, target_eq⟩⟩
          · rw [follow, if_neg (Nat.not_lt.2 short), keeps _ found]
            exact ih followed
          · cases target_eq
            rw [follow, if_neg (Nat.not_lt.2 short), kept old found]
            rfl
          · cases target_eq

/-- The way to a free place leads to the directory after it has been created. -/
theorem follow_put_directory {mustBeDirectory : Bool}
    (followed : tree.follow start .directory steps = .ok (.free place mustBeDirectory)) :
    (tree.put place .directory).follow start .directory steps =
      .ok (.taken place .directory) := by
  induction steps generalizing start with
  | nil => simp [follow] at followed
  | cons step steps ih =>
      cases step with
      | here => exact ih followed
      | up => exact ih followed
      | down name =>
          rcases follow_down_eq_ok followed with
            ⟨short, ⟨found, followed⟩ | ⟨old, -, -, target_eq⟩ | ⟨-, stays, target_eq⟩⟩
          · have elsewhere : name :: start ≠ place := by
              rintro rfl
              simp [get?_of_follow_free followed] at found
            rw [follow, if_neg (Nat.not_lt.2 short), get?_put_of_ne tree _ elsewhere, found]
            exact ih followed
          · cases target_eq
          · cases target_eq
            rw [follow, if_neg (Nat.not_lt.2 short), get?_put_self]
            exact follow_of_staysHere stays

theorem target_of_keepsDirectories (keeps : tree.KeepsDirectories later)
    (working_eq : later.workingDirectory = tree.workingDirectory)
    (kept : ∀ content, tree.get? place = some (.file content) →
      later.get? place = some (.file content))
    (found : tree.target path = .ok (.taken place node)) :
    later.target path = .ok (.taken place node) := by
  rcases exists_follow_of_target found with ⟨start, steps, start_eq, followed, target_eq⟩
  rw [target_eq later working_eq (keeps start start_eq)]
  exact follow_of_keepsDirectories keeps kept followed

theorem target_put_directory {mustBeDirectory : Bool}
    (found : tree.target path = .ok (.free place mustBeDirectory)) :
    (tree.put place .directory).target path = .ok (.taken place .directory) := by
  rcases exists_follow_of_target found with ⟨start, steps, start_eq, followed, target_eq⟩
  have elsewhere : start ≠ place := by
    rintro rfl
    simp [get?_of_target_free found] at start_eq
  have kept_start := (get?_put_of_ne tree .directory elsewhere).trans start_eq
  rw [target_eq (tree.put place .directory) rfl kept_start]
  exact follow_put_directory followed

end Paths

/--
A place holds what it held; or it was free, and holds a directory now to which a path around the
given one leads.
-/
inductive KeptAt (path : String) (tree later : FileTree) (place : Place) : Prop where
  | same (get?_eq : later.get? place = tree.get? place)
  | created {directory : String} (was_free : tree.get? place = none)
      (isDirectory : later.get? place = some .directory) (isAround : Path.IsAround path directory)
      (leads : later.target directory = .ok (.taken place .directory))

/-- Nothing is done to the tree but that missing directories around a path are created. -/
structure AddsAround (path : String) (tree later : FileTree) : Prop where
  workingDirectory_eq : later.workingDirectory = tree.workingDirectory
  kept : ∀ place, KeptAt path tree later place

theorem KeptAt.get?_of_directory (kept : KeptAt path tree later place)
    (found : tree.get? place = some .directory) : later.get? place = some .directory := by
  cases kept with
  | same get?_eq => rw [get?_eq, found]
  | created was_free => simp [was_free] at found

theorem KeptAt.get?_of_file {content : List UInt8} (kept : KeptAt path tree later place)
    (found : tree.get? place = some (.file content)) :
    later.get? place = some (.file content) := by
  cases kept with
  | same get?_eq => rw [get?_eq, found]
  | created was_free => simp [was_free] at found

/-- A place to which nothing more is done stays kept, as long as directories are. -/
theorem KeptAt.stays (kept : KeptAt path tree middle place)
    (keeps : middle.KeepsDirectories later)
    (working_eq : later.workingDirectory = middle.workingDirectory)
    (get?_eq : later.get? place = middle.get? place) : KeptAt path tree later place := by
  cases kept with
  | same same_eq => exact .same (get?_eq.trans same_eq)
  | created was_free isDirectory isAround leads =>
      exact .created was_free (get?_eq.trans isDirectory) isAround
        (target_of_keepsDirectories keeps working_eq (fun _ => get?_eq.trans) leads)

namespace AddsAround

theorem keepsDirectories (adds : tree.AddsAround path later) : tree.KeepsDirectories later :=
  fun place => (adds.kept place).get?_of_directory

theorem refl (path : String) (tree : FileTree) : tree.AddsAround path tree :=
  ⟨rfl, fun _ => .same rfl⟩

theorem trans (before : tree.AddsAround path middle) (after : middle.AddsAround path later) :
    tree.AddsAround path later where
  workingDirectory_eq := after.workingDirectory_eq.trans before.workingDirectory_eq
  kept place := by
    cases after.kept place with
    | same get?_eq =>
        exact (before.kept place).stays after.keepsDirectories after.workingDirectory_eq get?_eq
    | created was_free isDirectory isAround leads =>
        cases before.kept place with
        | same get?_eq => exact .created (get?_eq ▸ was_free) isDirectory isAround leads
        | created _ wasDirectory => simp [was_free] at wasDirectory

/-- Whatever path led to a file or directory leads there still. -/
theorem target_eq (adds : tree.AddsAround path later) {otherPath : String}
    (found : tree.target otherPath = .ok (.taken place node)) :
    later.target otherPath = .ok (.taken place node) :=
  target_of_keepsDirectories adds.keepsDirectories adds.workingDirectory_eq
    (fun _ => (adds.kept place).get?_of_file) found

theorem sameFiles (adds : tree.AddsAround path later) : tree.SameFiles later := by
  intro place content
  cases adds.kept place with
  | same get?_eq => rw [get?_eq]
  | created was_free isDirectory => simp [was_free, isDirectory]

theorem createDirectory (isAround : Path.IsAround path directory)
    (created : tree.createDirectory directory = .ok later) : tree.AddsAround path later := by
  rw [FileTree.createDirectory] at created
  cases found : tree.target directory with
  | error fault => simp [found, bind, Except.bind] at created
  | ok target =>
      cases target with
      | taken place node => simp [found, bind, Except.bind] at created
      | free place mustBeDirectory =>
          simp only [found, bind, Except.bind, Except.ok.injEq] at created
          subst created
          refine ⟨rfl, fun other => ?_⟩
          by_cases same : other = place
          · subst same
            have was_free := get?_of_target_free found
            rcases other with _ | ⟨name, outer⟩
            · cases was_free
            · exact .created was_free (get?_put_self tree outer .directory) isAround
                (target_put_directory found)
          · exact .same (get?_put_of_ne tree _ same)

theorem ensureDirectory (isAround : Path.IsAround path directory)
    (ensured : tree.ensureDirectory directory = .ok later) : tree.AddsAround path later := by
  rw [FileTree.ensureDirectory] at ensured
  split at ensured
  · next created =>
      cases ensured
      exact createDirectory isAround created
  · split_ifs at ensured
    cases ensured
    exact refl path tree

theorem createDirectoriesFrom (fuel : Nat) (tree : FileTree)
    (isAround : Path.IsAround path directory) :
    tree.AddsAround path (FileTree.createDirectoriesFrom fuel tree directory).1 := by
  fun_induction FileTree.createDirectoriesFrom fuel tree directory with
  | case1 | case2 | case4 | case8 | case9 => exact refl path _
  | case3 _ _ _ _ _ created => exact createDirectory isAround created
  | case5 _ _ _ _ _ outer outer_eq _ _ around_eq ih
  | case7 _ _ _ _ _ outer outer_eq _ around_eq _ _ ih =>
      have adds := ih (isAround.further outer_eq)
      rw [around_eq] at adds
      exact adds
  | case6 _ _ _ _ _ outer outer_eq _ around_eq _ ensured ih =>
      have adds := ih (isAround.further outer_eq)
      rw [around_eq] at adds
      exact adds.trans (ensureDirectory isAround ensured)

theorem createDirectories (tree : FileTree) (isAround : Path.IsAround path directory) :
    tree.AddsAround path (tree.createDirectories directory).1 :=
  createDirectoriesFrom _ tree isAround

end AddsAround

/--
A file has been written where a path leads, at a place that held no directory, and nothing else is
done to the tree but that missing directories around the path are created.
-/
structure HasWritten (path : String) (content : List UInt8) (place : Place)
    (tree later : FileTree) : Prop where
  target_eq : later.target path = .ok (.taken place (.file content))
  not_directory : tree.get? place ≠ some .directory
  workingDirectory_eq : later.workingDirectory = tree.workingDirectory
  kept : ∀ other ≠ place, KeptAt path tree later other

namespace HasWritten

variable {content : List UInt8}

theorem keepsDirectories (has : tree.HasWritten path content place later) :
    tree.KeepsDirectories later := by
  intro other found
  have elsewhere : other ≠ place := by
    rintro rfl
    exact has.not_directory found
  exact (has.kept other elsewhere).get?_of_directory found

theorem target_of_ne {otherPath : String} {other : Place}
    (has : tree.HasWritten path content place later) (elsewhere : other ≠ place)
    (found : tree.target otherPath = .ok (.taken other node)) :
    later.target otherPath = .ok (.taken other node) :=
  target_of_keepsDirectories has.keepsDirectories has.workingDirectory_eq
    (fun _ => (has.kept other elsewhere).get?_of_file) found

end HasWritten

theorem AddsAround.exists_hasWritten {content : List UInt8} (adds : tree.AddsAround path middle)
    (written : middle.writeFile path content = .ok later) :
    ∃ place, tree.HasWritten path content place later := by
  rcases exists_put_of_writeFile written with ⟨target, place, found, writable, rfl⟩
  have was_no_directory := get?_ne_directory_of_target writable found
  have keeps : middle.KeepsDirectories (middle.put place (.file content)) := by
    intro other other_eq
    have elsewhere : other ≠ place := by
      rintro rfl
      exact was_no_directory other_eq
    rw [get?_put_of_ne middle _ elsewhere, other_eq]
  refine ⟨place, target_put writable found content, ?_, adds.workingDirectory_eq, ?_⟩
  · exact fun was_directory => was_no_directory (adds.keepsDirectories place was_directory)
  · intro other elsewhere
    exact (adds.kept other).stays keeps rfl (get?_put_of_ne middle _ elsewhere)

end FileTree

end ScriptedFeed
