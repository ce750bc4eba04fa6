import Mathlib.Data.List.DropRight
import Mathlib.Data.List.ReduceOption
import Mathlib.Tactic
import ScriptedFeed.Feed.Buffer

/-!
# A feed holds its newest lines

Whatever lines are appended to a feed, it holds the last of them, as many as its capacity allows,
in the order in which they came. The others have been pushed out, each of them once and in the same
order, so that the lines pushed out and those that are held are together all lines that came.
-/

namespace ScriptedFeed

theorem rtake_map {α β : Type} (change : α → β) (items : List α) (count : Nat) :
    (items.map change).rtake count = (items.rtake count).map change := by
  simp [List.rtake]

/-- The lines that some texts become when they enter a feed one after the other. -/
def feedLines (stamp : Nat → Instant) (texts : List String) : List FeedLine :=
  texts.zipIdx.map fun (text, index) => .ofText text (stamp index)

section FeedLines

variable {stamp : Nat → Instant} {texts : List String}

@[simp]
theorem length_feedLines : (feedLines stamp texts).length = texts.length := by
  simp [feedLines]

/-- A further text does not change the lines before it. -/
theorem feedLines_concat (stamp : Nat → Instant) (texts : List String) (text : String) :
    feedLines stamp (texts ++ [text]) =
      feedLines stamp texts ++ [.ofText text (stamp texts.length)] := by
  simp [feedLines, List.zipIdx_append]

@[simp]
theorem map_text_feedLines : (feedLines stamp texts).map FeedLine.text = texts := by
  rw [feedLines, List.map_map]
  exact List.zipIdx_map_fst 0 texts

theorem category_of_mem_feedLines {line : FeedLine} (line_mem : line ∈ feedLines stamp texts) :
    line.category = Category.classify line.text := by
  simp only [feedLines, List.mem_map] at line_mem
  rcases line_mem with ⟨⟨text, index⟩, -, rfl⟩
  rfl

end FeedLines

namespace Buffer

variable {buffer : Buffer} {fed : List FeedLine}

/-- The feed holds the last of the lines that entered it. -/
def HoldsNewest (buffer : Buffer) (fed : List FeedLine) : Prop :=
  buffer.lines = fed.rtake buffer.capacity.toNat

@[simp]
theorem capacity_append (buffer : Buffer) (line : FeedLine) :
    (buffer.append line).capacity = buffer.capacity :=
  rfl

theorem holdsNewest_of_create {capacity : UInt64} (created : create capacity = .ok buffer) :
    buffer.capacity = capacity ∧ 0 < capacity.toNat ∧ buffer.HoldsNewest [] := by
  simp only [create] at created
  split_ifs at created with isZero tooLarge
  cases created
  refine ⟨rfl, ?_, by simp [HoldsNewest]⟩
  exact Nat.pos_of_ne_zero fun toNat_eq => isZero (UInt64.toNat_inj.1 toNat_eq)

/-- Appending pushes out what is not among the newest lines any more. -/
theorem HoldsNewest.append (positive : 0 < buffer.capacity.toNat)
    (holds : buffer.HoldsNewest fed) (line : FeedLine) :
    (buffer.append line).HoldsNewest (fed ++ [line]) := by
  simp only [HoldsNewest] at holds ⊢
  rcases Nat.exists_eq_succ_of_ne_zero positive.ne' with ⟨room, room_eq⟩
  rw [capacity_append, room_eq, List.rtake_concat_succ]
  simp only [Buffer.append, holds, room_eq, List.rtake, List.length_drop]
  split_ifs with full
  · congr 1
    rw [List.drop_drop]
    congr 1
    omega
  · congr 2
    omega

theorem capacity_foldl_append (lines : List FeedLine) :
    (lines.foldl Buffer.append buffer).capacity = buffer.capacity := by
  induction lines generalizing buffer with
  | nil => rfl
  | cons line lines ih => exact ih

theorem HoldsNewest.foldl_append (positive : 0 < buffer.capacity.toNat)
    (holds : buffer.HoldsNewest fed) (lines : List FeedLine) :
    (lines.foldl Buffer.append buffer).HoldsNewest (fed ++ lines) := by
  induction lines generalizing buffer fed with
  | nil => simpa using holds
  | cons line lines ih =>
      have room : 0 < (buffer.append line).capacity.toNat := positive
      simpa using ih room (holds.append positive line)

section Evictions

variable {line : FeedLine} {lines : List FeedLine}

/-- What is pushed out when some lines are appended one after the other, for each of them. -/
def evictions (buffer : Buffer) : List FeedLine → List (Option FeedLine)
  | [] => []
  | line :: lines => buffer.evicted? :: (buffer.append line).evictions lines

theorem evictions_concat (buffer : Buffer) (lines : List FeedLine) (line : FeedLine) :
    buffer.evictions (lines ++ [line]) =
      buffer.evictions lines ++ [(lines.foldl Buffer.append buffer).evicted?] := by
  induction lines generalizing buffer with
  | nil => rfl
  | cons first lines ih => simp [evictions, ih]

/-- Appending a line loses none: one is pushed out, or all are kept. -/
theorem toList_evicted?_append (buffer : Buffer) (line : FeedLine) :
    buffer.evicted?.toList ++ (buffer.append line).lines = buffer.lines ++ [line] := by
  simp only [evicted?, Buffer.append]
  split_ifs with full
  · cases buffer.lines with
    | nil => rfl
    | cons oldest newer => rfl
  · rfl

theorem reduceOption_evictions_append (buffer : Buffer) (lines : List FeedLine) :
    (buffer.evictions lines).reduceOption ++ (lines.foldl Buffer.append buffer).lines =
      buffer.lines ++ lines := by
  induction lines generalizing buffer with
  | nil => simp [evictions]
  | cons line lines ih =>
      calc (buffer.evictions (line :: lines)).reduceOption ++
            ((line :: lines).foldl Buffer.append buffer).lines
        _ = buffer.evicted?.toList ++ (((buffer.append line).evictions lines).reduceOption ++
              (lines.foldl Buffer.append (buffer.append line)).lines) := by
          cases evicted_eq : buffer.evicted? <;> simp [evictions, evicted_eq]
        _ = buffer.evicted?.toList ++ (buffer.append line).lines ++ lines := by
          rw [ih, List.append_assoc]
        _ = buffer.lines ++ line :: lines := by
          rw [toList_evicted?_append, List.append_assoc, List.singleton_append]

theorem HoldsNewest.length_lines (holds : buffer.HoldsNewest fed) :
    buffer.lines.length = min buffer.capacity.toNat fed.length := by
  rw [holds, List.rtake, List.length_drop]
  omega

/-- Only a feed that holds as many lines as it can pushes one out. -/
theorem HoldsNewest.isSome_evicted?_iff (positive : 0 < buffer.capacity.toNat)
    (holds : buffer.HoldsNewest fed) :
    buffer.evicted?.isSome ↔ buffer.lines.length = buffer.capacity.toNat := by
  have length_eq := holds.length_lines
  rw [evicted?]
  split_ifs with full
  · have not_empty : buffer.lines ≠ [] := by
      apply List.ne_nil_of_length_pos
      omega
    simp only [List.isSome_head?, not_empty, ne_eq, not_false_eq_true, true_iff]
    omega
  · simp only [Option.isSome_none, Bool.false_eq_true, false_iff]
    omega

theorem exists_eq_cons_of_evicted? (evicted_eq : buffer.evicted? = some line) :
    ∃ newer, buffer.lines = line :: newer := by
  rw [evicted?] at evicted_eq
  split_ifs at evicted_eq
  exact List.head?_eq_some_iff.1 evicted_eq

end Evictions

end Buffer

/--
However many lines have been appended to a feed, those that were pushed out and then those that it
holds are all of them. It holds the newest ones, up to its capacity, and the next line pushes one
out if and only if that many are held, namely the oldest.
-/
theorem Buffer.appended_lines_are_conserved {capacity : UInt64} {buffer : Buffer}
    (created : Buffer.create capacity = .ok buffer) (lines : List FeedLine) :
    let feed := lines.foldl Buffer.append buffer
    (buffer.evictions lines).reduceOption ++ feed.lines = lines ∧
      feed.lines = lines.rtake (min capacity.toNat lines.length) ∧
      (∀ next, ∃ evicted?,
        buffer.evictions (lines ++ [next]) = buffer.evictions lines ++ [evicted?] ∧
          (evicted?.isSome ↔ feed.lines.length = capacity.toNat) ∧
          ∀ oldest, evicted? = some oldest → ∃ newer, feed.lines = oldest :: newer) ∧
      feed.lines.length ≤ capacity.toNat ∧
      (feed.isFull ↔ capacity.toNat ≤ lines.length) := by
  intro feed
  rcases Buffer.holdsNewest_of_create created with ⟨rfl, positive, holds_none⟩
  have capacity_eq : feed.capacity = buffer.capacity := Buffer.capacity_foldl_append lines
  have holds : feed.HoldsNewest lines := holds_none.foldl_append positive lines
  have length_eq : feed.lines.length = min buffer.capacity.toNat lines.length := by
    rw [← capacity_eq]
    exact holds.length_lines
  have none_before : buffer.lines = [] := holds_none.trans (List.rtake_nil _)
  refine ⟨?_, ?_, ?_, ?_, ?_⟩
  · rw [Buffer.reduceOption_evictions_append, none_before, List.nil_append]
  · rw [holds, capacity_eq, List.rtake, List.rtake]
    congr 1
    omega
  · intro next
    refine ⟨feed.evicted?, Buffer.evictions_concat buffer lines next, ?_, ?_⟩
    · rw [← capacity_eq] at positive ⊢
      exact holds.isSome_evicted?_iff positive
    · intro oldest evicted_eq
      exact Buffer.exists_eq_cons_of_evicted? evicted_eq
  · omega
  · rw [Buffer.isFull, decide_eq_true_eq, length_eq, capacity_eq]
    omega

/-- A feed of two lines is full when it has three, and the first of them has been pushed out. -/
theorem Buffer.appended_lines_are_conserved_beyond_capacity :
    let line (text : String) : FeedLine := .ofText text .epoch
    let lines := [line "connected", line "WARN lag", line "FILLED"]
    ∃ buffer, Buffer.create 2 = .ok buffer ∧
      (buffer.evictions lines).reduceOption ++ (lines.foldl Buffer.append buffer).lines = lines ∧
      (lines.foldl Buffer.append buffer).lines = [line "WARN lag", line "FILLED"] ∧
      (lines.foldl Buffer.append buffer).isFull := by
  intro line lines
  have created : Buffer.create 2 = .ok ⟨2, []⟩ := rfl
  rcases Buffer.appended_lines_are_conserved created lines with ⟨conserved, newest, -, -, full⟩
  exact ⟨_, created, conserved, newest, full.2 (by decide)⟩

end ScriptedFeed
