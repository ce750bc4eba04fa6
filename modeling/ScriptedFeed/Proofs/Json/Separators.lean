import ScriptedFeed.Json.Reader
import ScriptedFeed.Proofs.Json.Grammar

/-!
# What stands between the parts of an array or object

The closing byte of an array or object, the comma before a later item of it, and the colon of a
member are found across the blanks before them, and nowhere else.
-/

namespace ScriptedFeed

namespace Json

variable {bytes written rest blanks gap lead before : List UInt8} {isFirst : Bool}

section Colon

theorem readColon_eq (all_blank : IsBlanks blanks) (rest : List UInt8) :
    readColon (blanks ++ colon :: rest) = .ok rest := by
  simp [readColon, all_blank.skipBlanks_eq, skipBlanks_cons (show isBlank colon = false by decide)]

theorem exists_isBlanks_of_readColon (read : readColon bytes = .ok rest) :
    ∃ blanks, IsBlanks blanks ∧ bytes = blanks ++ colon :: rest := by
  rw [readColon] at read
  split at read
  · cases read
  next byte others skipped_eq =>
  split_ifs at read with isColon
  cases read
  rcases exists_eq_append_of_skipBlanks skipped_eq with ⟨blanks, rfl, all_blank⟩
  exact ⟨blanks, all_blank, by rw [isColon]⟩

end Colon

section Items

variable {frame : Frame} {byte : UInt8} {others item : List UInt8}

/-- What stands between the blanks before an item and where the item is read from. -/
def Frame.opening : Frame → List UInt8
  | array => []
  | object => [Text.quotationMark]

theorem startItem_eq_ok_iff :
    frame.startItem byte others = .ok item ↔ byte :: others = frame.opening ++ item := by
  cases frame with
  | array => simp [Frame.startItem, Frame.opening]
  | object =>
      rw [Frame.startItem, Frame.opening]
      split_ifs with isMark <;> simp [isMark]

theorem isBlank_closer (frame : Frame) : isBlank frame.closer = false := by
  cases frame <;> decide

theorem comma_ne_closer (frame : Frame) : Text.comma ≠ frame.closer := by
  cases frame <;> decide

theorem nextItem?_close (frame : Frame) (isFirst : Bool) (all_blank : IsBlanks blanks)
    (rest : List UInt8) : frame.nextItem? isFirst (blanks ++ frame.closer :: rest) = .ok none := by
  simp [Frame.nextItem?, all_blank.skipBlanks_eq, skipBlanks_cons (isBlank_closer frame)]

/-- An item is found after the gap before it. -/
theorem IsGap.nextItem?_eq (isGap : IsGap isFirst gap) (lead_blank : IsBlanks lead)
    (not_blank : isBlank byte = false) (not_end : byte ≠ frame.closer)
    (starts : frame.startItem byte others = .ok item) :
    frame.nextItem? isFirst (gap ++ (lead ++ byte :: others)) = .ok (some item) := by
  have lead_eq : skipBlanks (lead ++ byte :: others) = byte :: others := by
    rw [lead_blank.skipBlanks_eq, skipBlanks_cons not_blank]
  cases isGap with
  | first => simp [Frame.nextItem?, lead_eq, not_end, starts]
  | later all_blank =>
      simp [Frame.nextItem?, all_blank.skipBlanks_eq, lead_eq, not_end, starts,
        skipBlanks_cons (show isBlank Text.comma = false by decide), comma_ne_closer]

theorem exists_close_of_nextItem? (next_eq : frame.nextItem? isFirst bytes = .ok none) :
    ∃ blanks others, bytes = blanks ++ frame.closer :: others ∧ IsBlanks blanks := by
  rw [Frame.nextItem?] at next_eq
  split at next_eq
  · cases next_eq
  next byte others skipped_eq =>
  split_ifs at next_eq with isEnd
  · rcases exists_eq_append_of_skipBlanks skipped_eq with ⟨blanks, rfl, all_blank⟩
    exact ⟨blanks, others, by rw [isEnd], all_blank⟩
  · simp [bind_eq_ok_iff] at next_eq
  · split at next_eq
    · cases next_eq
    · split_ifs at next_eq
      simp [bind_eq_ok_iff] at next_eq

theorem exists_isGap_of_nextItem? (next_eq : frame.nextItem? isFirst bytes = .ok (some item)) :
    ∃ gap lead, bytes = gap ++ (lead ++ (frame.opening ++ item)) ∧ IsGap isFirst gap ∧
      IsBlanks lead := by
  rw [Frame.nextItem?] at next_eq
  split at next_eq
  · cases next_eq
  next byte others skipped_eq =>
  rcases exists_eq_append_of_skipBlanks skipped_eq with ⟨blanks, rfl, all_blank⟩
  split_ifs at next_eq with isEnd first isComma
  · cases next_eq
  · subst first
    rcases bind_eq_ok_iff.1 next_eq with ⟨_, starts, ⟨⟩⟩
    exact ⟨[], blanks, by rw [← startItem_eq_ok_iff.1 starts, List.nil_append], .first, all_blank⟩
  · have later : isFirst = false := by simpa using first
    subst later
    split at next_eq
    · cases next_eq
    next next others after_eq =>
    split_ifs at next_eq
    rcases bind_eq_ok_iff.1 next_eq with ⟨_, starts, ⟨⟩⟩
    rcases exists_eq_append_of_skipBlanks after_eq with ⟨lead, rfl, lead_blank⟩
    refine ⟨blanks ++ [Text.comma], lead, ?_, .later all_blank, lead_blank⟩
    simp [isComma, ← startItem_eq_ok_iff.1 starts]

end Items

section Array

/-- An element is read from where it starts. -/
theorem IsGap.nextItem?_array (isGap : IsGap isFirst gap) (lead_blank : IsBlanks lead)
    (starts : ∃ byte others, written = byte :: others ∧ leadOf byte ≠ .nothing)
    (rest : List UInt8) :
    Frame.array.nextItem? isFirst (gap ++ (lead ++ (written ++ rest))) =
      .ok (some (written ++ rest)) := by
  rcases starts with ⟨byte, others, rfl, announces⟩
  have not_end : byte ≠ closeBracket := by
    rintro rfl
    exact announces rfl
  exact isGap.nextItem?_eq lead_blank (isBlank_of_leadOf announces) not_end rfl

theorem endArray_close (all_blank : IsBlanks blanks) (rest : List UInt8) :
    endArray (blanks ++ closeBracket :: rest) = .ok rest := by
  simp [endArray, all_blank.skipBlanks_eq,
    skipBlanks_cons (show isBlank closeBracket = false by decide)]

theorem exists_close_of_endArray (ended : endArray bytes = .ok rest) :
    ∃ blanks, bytes = blanks ++ closeBracket :: rest ∧ IsBlanks blanks := by
  rw [endArray] at ended
  split at ended
  · cases ended
  next byte others skipped_eq =>
  split_ifs at ended with isEnd isComma
  · cases ended
    rcases exists_eq_append_of_skipBlanks skipped_eq with ⟨blanks, rfl, all_blank⟩
    exact ⟨blanks, by rw [isEnd], all_blank⟩
  · split at ended
    · cases ended
    · split_ifs at ended

end Array

section Object

/-- A member is read from behind the opening mark of its name. -/
theorem IsGap.nextItem?_object (isGap : IsGap isFirst gap) (before_blank : IsBlanks before)
    (rest : List UInt8) :
    Frame.object.nextItem? isFirst (gap ++ (before ++ Text.quotationMark :: rest)) =
      .ok (some rest) :=
  isGap.nextItem?_eq before_blank (by decide) (by decide) rfl

theorem endObject_close (all_blank : IsBlanks blanks) (rest : List UInt8) :
    endObject (blanks ++ closeBrace :: rest) = .ok rest := by
  simp [endObject, all_blank.skipBlanks_eq,
    skipBlanks_cons (show isBlank closeBrace = false by decide)]

end Object

end Json

end ScriptedFeed
