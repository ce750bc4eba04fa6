import ScriptedFeed.Proofs.Display.Window

/-!
# Everything that a window adds

A window that adds lines at the end is shown a feed at some moments only, while lines go on entering
it. Which lines it has written after all of them depends on nothing but these moments: each line
that was in the feed at one of them, once, in the order in which the lines entered. A line is
counted here by the number of lines that entered before it, and a moment by the number of lines that
have entered by then.
-/

namespace ScriptedFeed

/-- The feed after so many lines of a stream have entered it. -/
def Buffer.after (capacity : UInt64) (stream : Nat → FeedLine) (count : Nat) : Buffer :=
  ((List.range count).map stream).foldl append ⟨capacity, []⟩

/-- The text that a window sends for some snapshots, shown one after the other. -/
def Window.transcript (window : Window) : List (List FeedLine) → String
  | [] => ""
  | lines :: snapshots => window.render lines ++ (window.afterRender lines).transcript snapshots

/-- Whether a line is among the newest, as many as the capacity, at some of the moments. -/
def isEverVisible (capacity : Nat) (moments : List Nat) (index : Nat) : Bool :=
  moments.any fun moment => index < moment && moment ≤ index + capacity

section Stream

variable {capacity : UInt64} {stream : Nat → FeedLine} {count seen moment last : Nat}
  {moments : List Nat}

theorem lines_after (positive : 0 < capacity) (stream : Nat → FeedLine) (count : Nat) :
    (Buffer.after capacity stream count).lines =
      ((List.range count).map stream).rtake capacity.toNat := by
  have empty_holds : Buffer.HoldsNewest ⟨capacity, []⟩ [] := by simp [Buffer.HoldsNewest]
  have hasRoom : 0 < (Buffer.mk capacity []).capacity.toNat := UInt64.lt_iff_toNat_lt.1 positive
  have holds := empty_holds.foldl_append hasRoom ((List.range count).map stream)
  rwa [Buffer.HoldsNewest, Buffer.capacity_foldl_append, List.nil_append] at holds

/-- The newest of some consecutive lines are those that so many lines do not come after. -/
theorem rtake_range' (start count capacity : Nat) :
    (List.range' start count).rtake capacity =
      (List.range' start count).filter fun index => start + count ≤ index + capacity := by
  have split_eq := List.range'_append_1 (s := start) (m := count - capacity)
    (n := count - (count - capacity))
  have count_eq : count - capacity + (count - (count - capacity)) = count := by omega
  rw [count_eq] at split_eq
  have older : (List.range' start (count - capacity)).filter
      (fun index => start + count ≤ index + capacity) = [] := by
    rw [List.filter_eq_nil_iff]
    intro index index_mem
    rw [List.mem_range'_1] at index_mem
    simp only [decide_eq_true_eq]
    omega
  have newer : (List.range' (start + (count - capacity)) (count - (count - capacity))).filter
      (fun index => start + count ≤ index + capacity) =
        List.range' (start + (count - capacity)) (count - (count - capacity)) := by
    rw [List.filter_eq_self]
    intro index index_mem
    rw [List.mem_range'_1] at index_mem
    simp only [decide_eq_true_eq]
    omega
  rw [← split_eq, List.filter_append, older, newer, List.nil_append, split_eq, List.rtake,
    List.drop_range', List.length_range', Nat.mul_one]

theorem le_getLast?_getD (ordered : (moment :: moments).Pairwise (· ≤ ·)) :
    moment ≤ moments.getLast?.getD moment := by
  cases last_eq : moments.getLast? with
  | none => exact Nat.le_refl moment
  | some last => exact List.rel_of_pairwise_cons ordered (List.mem_of_getLast? last_eq)

/--
Of the lines that enter after so many have, those that are visible at the first moment have entered
by then; the lines after them can be visible at the later moments only.
-/
theorem filter_isEverVisible_cons (capacity : Nat) (seen_le : seen ≤ moment)
    (ordered : (moment :: moments).Pairwise (· ≤ ·)) (le_last : moment ≤ last) :
    (List.range' seen (last - seen)).filter (isEverVisible capacity (moment :: moments)) =
      (List.range' seen (moment - seen)).rtake capacity ++
        (List.range' moment (last - moment)).filter (isEverVisible capacity moments) := by
  have split_eq := List.range'_append_1 (s := seen) (m := moment - seen) (n := last - moment)
  have start_eq : seen + (moment - seen) = moment := by omega
  have count_eq : moment - seen + (last - moment) = last - seen := by omega
  rw [start_eq, count_eq] at split_eq
  rw [← split_eq, List.filter_append, rtake_range', start_eq]
  congr 1
  · apply List.filter_congr
    intro index index_mem
    rw [List.mem_range'_1] at index_mem
    have later_visible : isEverVisible capacity moments index → moment ≤ index + capacity := by
      simp only [isEverVisible, List.any_eq_true, Bool.and_eq_true, decide_eq_true_eq]
      rintro ⟨later, later_mem, -, later_le⟩
      exact (List.rel_of_pairwise_cons ordered later_mem).trans later_le
    rw [Bool.eq_iff_iff, isEverVisible, List.any_cons, ← isEverVisible, Bool.or_eq_true,
      Bool.and_eq_true, decide_eq_true_eq, decide_eq_true_eq]
    constructor
    · rintro (⟨-, isVisible⟩ | isLater)
      · exact isVisible
      · exact later_visible isLater
    · intro isVisible
      exact .inl ⟨by omega, isVisible⟩
  · apply List.filter_congr
    intro index index_mem
    rw [List.mem_range'_1] at index_mem
    have not_before : ¬ index < moment := by omega
    simp [isEverVisible, not_before]

end Stream

namespace Window

variable {window : Window} {capacity : UInt64} {stream : Nat → FeedLine} {seen moment : Nat}
  {moments : List Nat} {written : List FeedLine}

theorem mode_afterRender (window : Window) (lines : List FeedLine) :
    (window.afterRender lines).mode = window.mode := by
  simp only [afterRender]
  split <;> rfl

theorem showsTime_afterRender (window : Window) (lines : List FeedLine) :
    (window.afterRender lines).showsTime = window.showsTime := by
  simp only [afterRender]
  split <;> rfl

theorem render_of_plain (isPlain : window.mode = .plain) (lines : List FeedLine) :
    window.render lines = String.join
      ((window.newLines lines).map fun line => line.shown window.showsTime ++ "\n") := by
  rw [render, renderCommands, isPlain]
  exact spellAll_flatMap_lineCommands window (window.newLines lines)

/-- What is written after so many lines have been shown, in terms of where the lines stand. -/
theorem HasShown.transcript_eq
    (shown : window.HasShown capacity.toNat ((List.range seen).map stream) written)
    (isPlain : window.mode = .plain) (positive : 0 < capacity)
    (distinct : Function.Injective stream) (ordered : (seen :: moments).Pairwise (· ≤ ·)) :
    window.transcript (moments.map fun moment => (Buffer.after capacity stream moment).lines) =
      String.join (((List.range' seen (moments.getLast?.getD seen - seen)).filter
        (isEverVisible capacity.toNat moments)).map fun index =>
          (stream index).shown window.showsTime ++ "\n") := by
  induction moments generalizing window seen written with
  | nil => simp [transcript]
  | cons moment moments ih =>
      rcases List.pairwise_cons.1 ordered with ⟨seen_le, later_ordered⟩
      have seen_le_moment := seen_le moment List.mem_cons_self
      have capacity_pos := UInt64.lt_iff_toNat_lt.1 positive
      -- The lines that have entered by this moment are those shown before and the recent ones.
      let recent := (List.range' seen (moment - seen)).map stream
      have entered_eq :
          (List.range moment).map stream = (List.range seen).map stream ++ recent := by
        have split_eq := List.range'_append_1 (s := 0) (m := seen) (n := moment - seen)
        rw [Nat.zero_add, Nat.add_sub_cancel' seen_le_moment] at split_eq
        rw [List.range_eq_range', List.range_eq_range', ← split_eq, List.map_append]
      have nodup : ((List.range seen).map stream ++ recent).Nodup := by
        rw [← entered_eq]
        exact List.nodup_range.map distinct
      have snapshot_eq : (Buffer.after capacity stream moment).lines =
          ((List.range seen).map stream ++ recent).rtake capacity.toNat := by
        rw [lines_after positive, entered_eq]
      have later_shown := shown.afterRender isPlain capacity_pos nodup
      rw [← snapshot_eq, ← entered_eq] at later_shown
      have later_plain : (window.afterRender (Buffer.after capacity stream moment).lines).mode =
          .plain := (mode_afterRender window _).trans isPlain
      have last_eq : (moment :: moments).getLast?.getD seen = moments.getLast?.getD moment := by
        simp [List.getLast?_cons]
      rw [List.map_cons, transcript, ih later_shown later_plain later_ordered,
        showsTime_afterRender, render_of_plain isPlain, snapshot_eq,
        newLines_rtake shown.last_eq nodup, last_eq,
        filter_isEverVisible_cons capacity.toNat seen_le_moment later_ordered
          (le_getLast?_getD later_ordered),
        List.map_append, String.join_append, rtake_map, List.map_map]
      rfl

end Window

/-- Between two moments no line is missed, if the feed has room for all that entered in between. -/
theorem isEverVisible_of_isChain {capacity start index : Nat} {moments : List Nat}
    (close : List.IsChain (fun earlier later => later ≤ earlier + capacity) (start :: moments))
    (start_le : start ≤ index) (index_lt : index < moments.getLast?.getD 0) :
    isEverVisible capacity moments index := by
  induction moments generalizing start with
  | nil => simp at index_lt
  | cons moment moments ih =>
      rw [List.isChain_cons_cons] at close
      rw [isEverVisible, List.any_cons, ← isEverVisible, Bool.or_eq_true, Bool.and_eq_true,
        decide_eq_true_eq, decide_eq_true_eq]
      by_cases hasEntered : index < moment
      · exact .inl ⟨hasEntered, by omega⟩
      · refine .inr (ih close.2 (Nat.not_lt.1 hasEntered) ?_)
        rw [List.getLast?_cons, Option.getD_some] at index_lt
        cases last_eq : moments.getLast? with
        | none =>
            rw [last_eq] at index_lt
            exact absurd index_lt hasEntered
        | some last => rwa [last_eq] at index_lt

/--
A window that adds lines at the end is shown a feed at some moments, none before the other. Of a
stream of lines that differ from each other, it has then written those that were visible at some of
the moments, each once and in order. So a line that it has not written had been pushed out by the
first moment after it entered; and from a start on, no line is missing if no more lines than the
feed holds enter from it to the first moment, or from one moment to the next.
-/
theorem Window.transcript_of_moments (showsTime : Bool) (capacity : UInt64)
    (stream : Nat → FeedLine) (moments : List Nat) (positive : 0 < capacity)
    (distinct : Function.Injective stream) (ordered : moments.Pairwise (· ≤ ·)) :
    let snapshot := fun moment => (Buffer.after capacity stream moment).lines
    let last := moments.getLast?.getD 0
    let written := (List.range last).filter (isEverVisible capacity.toNat moments)
    (∀ moment, snapshot moment =
      ((List.range moment).drop (moment - capacity.toNat)).map stream) ∧
    (Window.create .plain showsTime).transcript (moments.map snapshot) =
      String.join (written.map fun index => (stream index).shown showsTime ++ "\n") ∧
    (∀ index, index < last → index ∉ written → ∀ moment ∈ moments, index < moment →
      index + capacity.toNat < moment ∧ stream index ∉ snapshot moment) ∧
    ∀ start, List.IsChain (fun earlier later => later ≤ earlier + capacity.toNat)
        (start :: moments) →
      ∀ index, start ≤ index → index < last → index ∈ written := by
  intro snapshot last written
  have snapshot_eq (moment : Nat) : snapshot moment =
      ((List.range moment).drop (moment - capacity.toNat)).map stream := by
    simp only [snapshot, lines_after positive, List.rtake, List.length_map, List.length_range,
      List.map_drop]
  refine ⟨snapshot_eq, ?_, ?_, ?_⟩
  · have all_ordered : (0 :: moments).Pairwise (· ≤ ·) :=
      List.pairwise_cons.2 ⟨fun moment _ => Nat.zero_le moment, ordered⟩
    have shown : (Window.create .plain showsTime).HasShown capacity.toNat
        ((List.range 0).map stream) [] := Window.hasShown_create .plain showsTime capacity.toNat
    have transcript_eq := shown.transcript_eq rfl positive distinct all_ordered
    rwa [Nat.sub_zero, ← List.range_eq_range'] at transcript_eq
  · intro index index_lt not_written moment moment_mem hasEntered
    have pushed_out : index + capacity.toNat < moment := by
      by_contra held
      apply not_written
      rw [List.mem_filter, List.mem_range, isEverVisible, List.any_eq_true]
      refine ⟨index_lt, moment, moment_mem, ?_⟩
      rw [Bool.and_eq_true, decide_eq_true_eq, decide_eq_true_eq]
      exact ⟨hasEntered, Nat.not_lt.1 held⟩
    refine ⟨pushed_out, ?_⟩
    rw [snapshot_eq, List.mem_map]
    rintro ⟨other, other_mem, other_eq⟩
    rw [distinct other_eq, List.range_eq_range', List.drop_range', List.mem_range'_1] at other_mem
    omega
  · intro start close index start_le index_lt
    rw [List.mem_filter, List.mem_range]
    exact ⟨index_lt, isEverVisible_of_isChain close start_le index_lt⟩

/-- Of four lines, the second is pushed out between the two moments at which there is any. -/
theorem Window.transcript_of_moments_over_gap :
    let stream := fun index => FeedLine.ofText (String.ofList (List.replicate index 'x')) .epoch
    let moments := [0, 1, 1, 4, 4]
    (Window.create .plain false).transcript
        (moments.map fun moment => (Buffer.after 2 stream moment).lines) =
      "    \n    xx\n    xxx\n" ∧
    stream 1 ∉ (Buffer.after 2 stream 4).lines := by
  intro stream moments
  have distinct : Function.Injective stream := by
    intro index other lines_eq
    simpa [stream, FeedLine.ofText] using congrArg (fun line => line.text.length) lines_eq
  have ordered : moments.Pairwise (· ≤ ·) := by decide
  rcases Window.transcript_of_moments false 2 stream moments (by decide) distinct ordered with
    ⟨-, transcript_eq, missing, -⟩
  refine ⟨?_, ?_⟩
  · rw [transcript_eq]
    decide
  · exact (missing 1 (by decide) (by decide) 4 (by decide) (by decide)).2

end ScriptedFeed
