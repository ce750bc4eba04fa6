import Mathlib.Tactic
import ScriptedFeed.Storage.FileTree

/-!
# A file that has been written is found again

Following a path looks up each name on the way and nothing else. The place that is written held a
file or nothing before, so no way to somewhere else leads through it, and the path that led to the
place before it was written leads there still.
-/

namespace ScriptedFeed

theorem Path.partsFrom_ne_nil (current characters : List Char) :
    Path.partsFrom current characters ≠ [] := by
  fun_cases Path.partsFrom current characters with
  | case1 => simp
  | case2 => simp
  | case3 => exact partsFrom_ne_nil _ _

theorem Path.exists_steps_eq_cons (path : String) :
    ∃ step steps, Path.steps path = step :: steps := by
  apply List.exists_cons_of_ne_nil
  simpa [Path.steps] using Path.partsFrom_ne_nil [] path.toList

namespace FileTree

variable {tree saved : FileTree} {path : String} {start place other : Place} {target : Target}
  {steps : List PathStep} {content : List UInt8}

@[simp]
theorem get?_put_self {name : String} (tree : FileTree) (place : Place) (node : Node) :
    (tree.put (name :: place) node).get? (name :: place) = some node := by
  simp [put, get?]

theorem get?_put_of_ne (tree : FileTree) (node : Node) (ne : other ≠ place) :
    (tree.put place node).get? other = tree.get? other := by
  cases other with
  | nil => rfl
  | cons name other => simp [put, get?, List.lookup_cons, beq_eq_false_iff_ne.2 ne]

/-- What a path leads to where a file can be written: a file, or a place that is free for one. -/
inductive Target.IsWritable : Target → Place → Prop where
  | file (place : Place) (content : List UInt8) : IsWritable (.taken place (.file content)) place
  | free (place : Place) : IsWritable (.free place false) place

/-- Where a name leads to from a directory, and how it goes on from there. -/
theorem follow_down_eq_ok {name : String}
    (followed : tree.follow start .directory (.down name :: steps) = .ok target) :
    name.utf8ByteSize ≤ longestName ∧
    (tree.get? (name :: start) = some .directory ∧
        tree.follow (name :: start) .directory steps = .ok target ∨
      (∃ old, tree.get? (name :: start) = some (.file old) ∧ steps = [] ∧
        target = .taken (name :: start) (.file old)) ∨
      tree.get? (name :: start) = none ∧ staysHere steps ∧
        target = .free (name :: start) (!steps.isEmpty)) := by
  by_cases isLong : longestName < name.utf8ByteSize
  · simp [follow, isLong] at followed
  refine ⟨Nat.not_lt.1 isLong, ?_⟩
  rw [follow, if_neg isLong] at followed
  cases found : tree.get? (name :: start) with
  | some next =>
      rw [found] at followed
      cases next with
      | directory => exact .inl ⟨rfl, followed⟩
      | file old =>
          cases steps with
          | nil =>
              simp only [follow, Except.ok.injEq] at followed
              exact .inr (.inl ⟨old, rfl, rfl, followed.symm⟩)
          | cons step steps => simp [follow] at followed
  | none =>
      simp only [found] at followed
      split_ifs at followed with stays
      simp only [Except.ok.injEq] at followed
      exact .inr (.inr ⟨rfl, stays, followed.symm⟩)

theorem not_isWritable_directory : ¬Target.IsWritable (.taken other .directory) place :=
  nofun

/-- The place where a file can be written is no directory. -/
theorem get?_ne_directory_of_follow (writable : target.IsWritable place)
    (followed : tree.follow start .directory steps = .ok target) :
    tree.get? place ≠ some .directory := by
  induction steps generalizing start with
  | nil =>
      simp only [follow, Except.ok.injEq] at followed
      subst followed
      exact absurd writable not_isWritable_directory
  | cons step steps ih =>
      cases step with
      | here => exact ih followed
      | up => exact ih followed
      | down name =>
          rcases follow_down_eq_ok followed with
            ⟨-, ⟨-, followed⟩ | ⟨old, found, rfl, rfl⟩ | ⟨missing, -, rfl⟩⟩
          · exact ih followed
          · cases writable
            simp [found]
          · generalize mustBeDirectory_eq : (!steps.isEmpty) = mustBeDirectory at writable
            cases writable
            simp [missing]

/-- The way to a place where a file can be written leads to the file after it has been written. -/
theorem follow_put (writable : target.IsWritable place)
    (followed : tree.follow start .directory steps = .ok target) (content : List UInt8) :
    (tree.put place (.file content)).follow start .directory steps =
      .ok (.taken place (.file content)) := by
  induction steps generalizing start with
  | nil =>
      simp only [follow, Except.ok.injEq] at followed
      subst followed
      exact absurd writable not_isWritable_directory
  | cons step steps ih =>
      cases step with
      | here => exact ih followed
      | up => exact ih followed
      | down name =>
          rcases follow_down_eq_ok followed with
            ⟨short, ⟨found, followed⟩ | ⟨old, found, rfl, rfl⟩ | ⟨missing, -, rfl⟩⟩
          · have elsewhere : name :: start ≠ place := by
              rintro rfl
              exact get?_ne_directory_of_follow writable followed found
            rw [follow, if_neg (Nat.not_lt.2 short), get?_put_of_ne tree _ elsewhere, found]
            exact ih followed
          · cases writable
            simp [follow, Nat.not_lt.2 short]
          · generalize mustBeDirectory_eq : (!steps.isEmpty) = mustBeDirectory at writable
            cases writable
            have steps_nil : steps = [] := by simpa using mustBeDirectory_eq
            simp [follow, Nat.not_lt.2 short, steps_nil]

/-- Following a path takes a step, so it starts from a directory. -/
theorem exists_follow_of_target {target : Target} (found : tree.target path = .ok target) :
    ∃ start steps, tree.get? start = some .directory ∧
      tree.follow start .directory steps = .ok target ∧
      ∀ later : FileTree, later.workingDirectory = tree.workingDirectory →
        later.get? start = some .directory →
        later.target path = later.follow start .directory steps := by
  rcases Path.exists_steps_eq_cons path with ⟨step, steps, steps_eq⟩
  simp only [FileTree.target, followSteps, steps_eq] at found ⊢
  split_ifs at found ⊢ with isEmpty hasZero isLong
  all_goals
    split at found
    · next node node_eq =>
      cases node with
      | file old => simp [follow] at found
      | directory =>
          refine ⟨_, _, node_eq, found, ?_⟩
          intro later working_eq start_eq
          simp_all
    · cases found

theorem get?_ne_directory_of_target (writable : target.IsWritable place)
    (found : tree.target path = .ok target) : tree.get? place ≠ some .directory := by
  rcases exists_follow_of_target found with ⟨start, steps, -, followed, -⟩
  exact get?_ne_directory_of_follow writable followed

theorem target_put (writable : target.IsWritable place) (found : tree.target path = .ok target)
    (content : List UInt8) :
    (tree.put place (.file content)).target path = .ok (.taken place (.file content)) := by
  rcases exists_follow_of_target found with ⟨start, steps, start_eq, followed, target_eq⟩
  have elsewhere : start ≠ place := by
    rintro rfl
    exact get?_ne_directory_of_follow writable followed start_eq
  have kept_start := (get?_put_of_ne tree (.file content) elsewhere).trans start_eq
  rw [target_eq (tree.put place (.file content)) rfl kept_start]
  exact follow_put writable followed content

/-- Writing puts the content at the place that the path leads to. -/
theorem exists_put_of_writeFile (written : tree.writeFile path content = .ok saved) :
    ∃ target place, tree.target path = .ok target ∧ target.IsWritable place ∧
      saved = tree.put place (.file content) := by
  simp only [writeFile] at written
  split at written
  · simp at written
  · cases found : tree.target path with
    | error fault => simp [found, bind, Except.bind] at written
    | ok target =>
        simp only [found, bind, Except.bind] at written
        split at written
        · simp at written
        · next place old =>
            simp only [Except.ok.injEq] at written
            exact ⟨_, place, rfl, .file place old, written.symm⟩
        · next place mustBeDirectory =>
            split_ifs at written with isDirectory
            simp only [Except.ok.injEq] at written
            simp only [Bool.not_eq_true] at isDirectory
            subst isDirectory
            exact ⟨_, place, rfl, .free place, written.symm⟩

theorem target_of_writeFile (written : tree.writeFile path content = .ok saved) :
    ∃ place, saved.target path = .ok (.taken place (.file content)) := by
  rcases exists_put_of_writeFile written with ⟨target, place, found, writable, rfl⟩
  exact ⟨place, target_put writable found content⟩

theorem holds_of_writeFile (written : tree.writeFile path content = .ok saved) :
    saved.holds path := by
  rcases target_of_writeFile written with ⟨place, found⟩
  simp [holds, found]

/-- What has been written at a path is read at that path. -/
theorem contentOf_of_writeFile (written : tree.writeFile path content = .ok saved) :
    saved.contentOf path = .ok content := by
  rcases target_of_writeFile written with ⟨place, found⟩
  simp [contentOf, openNode, readNode, found, bind, Except.bind]

/-- A place that is free holds nothing. -/
theorem get?_of_follow_free {mustBeDirectory : Bool}
    (followed : tree.follow start .directory steps = .ok (.free place mustBeDirectory)) :
    tree.get? place = none := by
  induction steps generalizing start with
  | nil => simp [follow] at followed
  | cons step steps ih =>
      cases step with
      | here => exact ih followed
      | up => exact ih followed
      | down name =>
          rcases follow_down_eq_ok followed with
            ⟨-, ⟨-, followed⟩ | ⟨old, -, -, target_eq⟩ | ⟨missing, -, target_eq⟩⟩
          · exact ih followed
          · cases target_eq
          · cases target_eq
            exact missing

theorem get?_of_target_free {mustBeDirectory : Bool}
    (found : tree.target path = .ok (.free place mustBeDirectory)) : tree.get? place = none := by
  rcases exists_follow_of_target found with ⟨start, steps, -, followed, -⟩
  exact get?_of_follow_free followed

/-- Both trees have the same files, with the same content. -/
def SameFiles (tree later : FileTree) : Prop :=
  ∀ place content, later.get? place = some (.file content) ↔ tree.get? place = some (.file content)

theorem SameFiles.refl (tree : FileTree) : tree.SameFiles tree :=
  fun _ _ => Iff.rfl

end FileTree

end ScriptedFeed
