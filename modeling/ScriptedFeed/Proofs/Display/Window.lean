import ScriptedFeed.Display.Window
import ScriptedFeed.Proofs.Feed.Buffer

/-!
# A window adds what is new

A window that adds lines at the end remembers the last line that it has written. As long as no two
lines of the feed are equal, the lines after that one in a snapshot are those that entered the feed
since the last snapshot, as far as the snapshot still holds them. Nothing is then written twice, and
everything in the snapshot has been written.
-/

namespace ScriptedFeed

section Newest

variable {α : Type} {item : α} {old recent : List α}

/-- The newest of a list are the newest of its end, and what there is still room for before it. -/
theorem rtake_append (old recent : List α) (count : Nat) :
    (old ++ recent).rtake count =
      old.rtake (count - recent.length) ++ recent.rtake count := by
  have end_eq : old.length + recent.length - count - old.length = recent.length - count := by
    omega
  rw [List.rtake, List.rtake, List.rtake, List.drop_append, List.length_append, end_eq]
  rcases Nat.le_total recent.length count with fits | exceeds
  · have start_eq : old.length + recent.length - count = old.length - (count - recent.length) := by
      omega
    rw [start_eq]
  · rw [Nat.sub_eq_zero_of_le exceeds, Nat.sub_zero, List.drop_length,
      List.drop_of_length_le (by omega)]

theorem rtake_sublist (items : List α) (count : Nat) : (items.rtake count).Sublist items :=
  List.drop_sublist _ _

theorem rtake_subset_rtake {count more : Nat} (items : List α) (count_le : count ≤ more) :
    items.rtake count ⊆ items.rtake more :=
  List.drop_subset_drop_left items (by omega)

theorem rtake_of_length_le {count : Nat} {items : List α} (length_le : items.length ≤ count) :
    items.rtake count = items := by
  simp [List.rtake, Nat.sub_eq_zero_of_le length_le]

theorem getLast?_rtake {count : Nat} (positive : 0 < count) (items : List α) :
    (items.rtake count).getLast? = items.getLast? := by
  rcases items.eq_nil_or_concat with rfl | ⟨init, last, rfl⟩
  · simp
  · rcases Nat.exists_eq_succ_of_ne_zero positive.ne' with ⟨less, rfl⟩
    simp [List.rtake_concat_succ]

theorem rtakeWhile_append_cons {keep : α → Bool} (before after : List α)
    (kept : ∀ other ∈ after, keep other) (dropped : ¬keep item) :
    (before ++ item :: after).rtakeWhile keep = after := by
  rw [List.rtakeWhile, List.reverse_append, List.reverse_cons, List.append_assoc,
    List.takeWhile_append_of_pos]
  · simp [dropped]
  · simpa using kept

end Newest

namespace Window

variable {window : Window} {capacity : Nat} {old recent written : List FeedLine}

/-- What is new in a snapshot is what entered the feed since the last one, as far as it is there. -/
theorem newLines_rtake (last_eq : window.lastWritten? = old.getLast?)
    (nodup : (old ++ recent).Nodup) (capacity : Nat) :
    window.newLines ((old ++ recent).rtake capacity) = recent.rtake capacity := by
  rw [rtake_append]
  rcases old.eq_nil_or_concat with rfl | ⟨init, last, rfl⟩
  · simp only [List.getLast?_nil] at last_eq
    simp [newLines, last_eq]
  · rw [List.concat_eq_append] at last_eq nodup ⊢
    rw [List.getLast?_concat] at last_eq
    have last_old : ∀ line ∈ recent, line ≠ last := by
      intro line line_mem line_eq
      subst line_eq
      exact List.disjoint_of_nodup_append nodup (by simp) line_mem
    have recent_new : ∀ line ∈ recent.rtake capacity, decide (line ≠ last) := by
      intro line line_mem
      simpa using last_old line ((rtake_sublist recent capacity).subset line_mem)
    have lines_after : ∀ lines, window.newLines lines = lines.rtakeWhile (· ≠ last) := by
      intro lines
      simp only [newLines, last_eq, List.rtakeWhile]
    rw [lines_after]
    -- Either the last line written is still in the snapshot, or what is new has pushed it out.
    cases capacity - recent.length with
    | zero => simpa using List.rtakeWhile_eq_self_iff.2 recent_new
    | succ room =>
        rw [List.rtake_concat_succ, List.append_assoc]
        exact rtakeWhile_append_cons _ _ recent_new (by simp)

/-- Lines that are added at the end are spelled as they are shown, each with its line feed. -/
theorem spellAll_flatMap_lineCommands (window : Window) (lines : List FeedLine) :
    Command.spellAll (lines.flatMap window.lineCommands) =
      String.join (lines.map fun line => line.shown window.showsTime ++ "\n") := by
  rw [Command.spellAll]
  induction lines with
  | nil => rfl
  | cons line lines ih =>
      rw [List.flatMap_cons, List.map_append, String.join_append, ih, List.map_cons,
        String.join_cons]
      rfl

/--
What a window that adds lines at the end has shown of the lines that entered a feed: it has written
some of them in order, the newest among them, and all of them if the feed never had to drop one.
-/
structure HasShown (window : Window) (capacity : Nat) (old written : List FeedLine) : Prop where
  last_eq : window.lastWritten? = old.getLast?
  sublist : written.Sublist old
  newest_written : ∀ line ∈ old.rtake capacity, line ∈ written
  all_written : old.length ≤ capacity → written = old

theorem hasShown_create (mode : WindowMode) (showsTime : Bool) (capacity : Nat) :
    (create mode showsTime).HasShown capacity [] [] :=
  ⟨rfl, .refl _, by simp, fun _ => rfl⟩

/-- Showing a further snapshot writes what has entered the feed since. -/
theorem HasShown.afterRender (shown : window.HasShown capacity old written)
    (isPlain : window.mode = .plain) (positive : 0 < capacity) (nodup : (old ++ recent).Nodup) :
    (window.afterRender ((old ++ recent).rtake capacity)).HasShown capacity (old ++ recent)
      (written ++ window.newLines ((old ++ recent).rtake capacity)) := by
  rw [newLines_rtake shown.last_eq nodup capacity]
  refine ⟨?_, ?_, ?_, ?_⟩
  · simp only [Window.afterRender, isPlain, getLast?_rtake positive, shown.last_eq]
    rcases recent.eq_nil_or_concat with rfl | ⟨init, last, rfl⟩
    · simp
    · simp
  · exact shown.sublist.append (rtake_sublist recent capacity)
  · intro line line_mem
    rw [rtake_append] at line_mem
    rcases List.mem_append.1 line_mem with old_mem | recent_mem
    · have newest : line ∈ old.rtake capacity :=
        rtake_subset_rtake old (Nat.sub_le capacity recent.length) old_mem
      exact List.mem_append_left _ (shown.newest_written line newest)
    · exact List.mem_append_right _ recent_mem
  · intro length_le
    rw [List.length_append] at length_le
    rw [shown.all_written (by omega), rtake_of_length_le (by omega)]

end Window

end ScriptedFeed
