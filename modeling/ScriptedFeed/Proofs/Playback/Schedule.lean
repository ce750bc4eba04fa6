import Mathlib.Data.List.TakeWhile
import ScriptedFeed.Playback.Schedule
import ScriptedFeed.Proofs.Playback.Delay

/-!
# Time does not overtake the queue

The queue of a schedule is sorted by delay, and scaling keeps the order of delays, so that the
queue is sorted by the ticks at which its lines are due. Looking at the first line only then misses
nothing: what is due at a tick is an initial part of the queue, and nothing behind it is due.
-/

namespace ScriptedFeed

/-- The delivery of a line if its time starts to run at a tick of the clock. -/
def Speed.delivery (speed : Speed) (start : Nat) (line : ScheduledLine) : Delivery :=
  ⟨start + speed.scaledTicks line.delay, line⟩

namespace ScheduledLine

theorem isDueBy_iff {line other : ScheduledLine} :
    line.isDueBy other ↔ line.delay ≤ other.delay := by
  simp [isDueBy]

theorem isDueBy_trans (first second third : ScheduledLine) (before : first.isDueBy second)
    (after : second.isDueBy third) : first.isDueBy third := by
  rw [isDueBy_iff] at before after ⊢
  exact UInt64.le_trans before after

theorem isDueBy_total (line other : ScheduledLine) :
    line.isDueBy other || other.isDueBy line := by
  simpa [isDueBy] using UInt64.le_total line.delay other.delay

/-- The order of delivery is the order of delays. -/
theorem pairwise_mergeSort (lines : List ScheduledLine) :
    (lines.mergeSort isDueBy).Pairwise fun line other => line.isDueBy other :=
  List.pairwise_mergeSort isDueBy_trans isDueBy_total lines

end ScheduledLine

namespace Schedule

theorem deliveries_eq (lines : List ScheduledLine) (speed : Speed) (start : Nat) :
    deliveries lines speed start =
      (lines.mergeSort ScheduledLine.isDueBy).map (speed.delivery start) :=
  rfl

theorem due_le_due {line other : ScheduledLine} (speed : Speed) (start : Nat)
    (before : line.isDueBy other) :
    (speed.delivery start line).due ≤ (speed.delivery start other).due :=
  Nat.add_le_add_left (speed.scaledTicks_mono (ScheduledLine.isDueBy_iff.1 before)) start

theorem pairwise_due (lines : List ScheduledLine) (speed : Speed) (start : Nat) :
    (deliveries lines speed start).Pairwise fun delivery other => delivery.due ≤ other.due := by
  rw [deliveries_eq, List.pairwise_map]
  exact (ScheduledLine.pairwise_mergeSort lines).imp (due_le_due speed start)

end Schedule

section Sorted

variable {α : Type} {isDue : α → Bool} {items : List α} {item : α}

/-- Where nothing due stands behind something that is not, what is left is not due. -/
theorem not_isDue_of_mem_dropWhile
    (sorted : items.Pairwise fun item other => isDue other → isDue item)
    (left : item ∈ items.dropWhile isDue) : ¬isDue item := by
  induction items with
  | nil => simp at left
  | cons first rest ih =>
      rcases List.pairwise_cons.1 sorted with ⟨first_before, rest_sorted⟩
      by_cases first_due : isDue first
      · rw [List.dropWhile_cons_of_pos first_due] at left
        exact ih rest_sorted left
      · rw [List.dropWhile_cons_of_neg first_due] at left
        rcases List.mem_cons.1 left with rfl | behind
        · exact first_due
        · exact mt (first_before item behind) first_due

theorem filter_eq_takeWhile
    (sorted : items.Pairwise fun item other => isDue other → isDue item) :
    items.filter isDue = items.takeWhile isDue := by
  have taken_due : (items.takeWhile isDue).filter isDue = items.takeWhile isDue :=
    List.filter_eq_self.2 fun _ taken => List.mem_takeWhile_imp taken
  have left_not_due : (items.dropWhile isDue).filter isDue = [] :=
    List.filter_eq_nil_iff.2 fun _ left => not_isDue_of_mem_dropWhile sorted left
  nth_rewrite 1 [← List.takeWhile_append_dropWhile (p := isDue) (l := items)]
  rw [List.filter_append, taken_due, left_not_due, List.append_nil]

theorem filter_not_eq_dropWhile
    (sorted : items.Pairwise fun item other => isDue other → isDue item) :
    (items.filter fun item => !isDue item) = items.dropWhile isDue := by
  have taken_due : ((items.takeWhile isDue).filter fun item => !isDue item) = [] := by
    apply List.filter_eq_nil_iff.2
    intro item taken
    simp [List.mem_takeWhile_imp taken]
  have left_not_due : ((items.dropWhile isDue).filter fun item => !isDue item) =
      items.dropWhile isDue := by
    apply List.filter_eq_self.2
    intro item left
    simpa using not_isDue_of_mem_dropWhile sorted left
  nth_rewrite 1 [← List.takeWhile_append_dropWhile (p := isDue) (l := items)]
  rw [List.filter_append, taken_due, left_not_due, List.nil_append]

end Sorted

namespace Schedule

variable {queue : List Delivery}

theorem pairwise_isDueAt (now : Nat)
    (sorted : queue.Pairwise fun delivery other => delivery.due ≤ other.due) :
    queue.Pairwise fun delivery other => isDueAt now other → isDueAt now delivery := by
  apply sorted.imp
  intro delivery other due_le
  simp only [isDueAt, decide_eq_true_eq]
  exact due_le.trans

end Schedule

end ScriptedFeed
