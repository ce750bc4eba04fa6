import Mathlib.Tactic
import ScriptedFeed.Display.Window
import ScriptedFeed.Proofs.Number.Digits

/-!
# Lines in the columns of a terminal

A line is cut to the longest part from its start that fits into a number of columns. As no character
takes fewer than no columns, this part is found character by character. The lines that a window
shows start with a character that takes a column, and hold no control characters but those of their
texts.
-/

namespace ScriptedFeed

/-- The number of columns that some characters take together. -/
def totalColumns (columnsOf : Char → Nat) (text : List Char) : Nat :=
  (text.map columnsOf).sum

/-- A text is the longest one that another starts with and that fits into some columns. -/
structure IsLongestFit (columnsOf : Char → Nat) (room : Nat) (text cut : List Char) : Prop where
  starts : cut <+: text
  fits : totalColumns columnsOf cut ≤ room
  longest : ∀ other, other <+: text → totalColumns columnsOf other ≤ room → other <+: cut

section Fit

variable {columnsOf : Char → Nat} {room : Nat} {text cut other : List Char} {character : Char}

@[simp]
theorem totalColumns_nil : totalColumns columnsOf [] = 0 :=
  rfl

@[simp]
theorem totalColumns_cons : totalColumns columnsOf (character :: text) =
    columnsOf character + totalColumns columnsOf text := by
  simp [totalColumns]

theorem IsLongestFit.eq (isFit : IsLongestFit columnsOf room text cut)
    (other_isFit : IsLongestFit columnsOf room text other) : cut = other :=
  (other_isFit.longest cut isFit.starts isFit.fits).eq_of_length_le
    (isFit.longest other other_isFit.starts other_isFit.fits).length_le

theorem isLongestFit_fitColumns (columnsOf : Char → Nat) (room : Nat) (text : List Char) :
    IsLongestFit columnsOf room text (fitColumns columnsOf room text) := by
  induction text generalizing room with
  | nil => exact ⟨List.prefix_rfl, by simp [fitColumns], fun other starts _ => starts⟩
  | cons character rest ih =>
      rw [fitColumns]
      split_ifs with hasRoom
      · rcases ih (room - columnsOf character) with ⟨starts, fits, longest⟩
        refine ⟨?_, ?_, ?_⟩
        · exact (List.prefix_cons_inj character).2 starts
        · rw [totalColumns_cons]
          omega
        · intro other other_starts other_fits
          cases other with
          | nil => exact List.nil_prefix
          | cons first others =>
              rcases List.cons_prefix_cons.1 other_starts with ⟨rfl, others_start⟩
              rw [totalColumns_cons] at other_fits
              exact (List.prefix_cons_inj first).2 (longest others others_start (by omega))
      · refine ⟨List.nil_prefix, by simp, ?_⟩
        intro other other_starts other_fits
        cases other with
        | nil => exact List.prefix_rfl
        | cons first others =>
            rcases List.cons_prefix_cons.1 other_starts with ⟨rfl, -⟩
            rw [totalColumns_cons] at other_fits
            omega

end Fit

namespace Text

/-- Whether a character is one of those that every terminal draws in one column. -/
def isPlain (character : Char) : Bool :=
  0x20 ≤ character.toNat && character.toNat < 0x7F

variable {character : Char}

theorem isControl_of_isPlain (isPlain : isPlain character) : isControl character = false := by
  simp only [Text.isPlain, Bool.and_eq_true, decide_eq_true_eq] at isPlain
  simp only [isControl, Bool.or_eq_false_iff, Bool.and_eq_false_iff, decide_eq_false_iff_not]
  omega

/-- No character comes before the first range of a set that lists them in order. -/
theorem contains_of_isPlain {ranges : CodeRanges} (isPlain : isPlain character)
    (all_later : ranges.all fun range => 0x7F ≤ range.1) : ranges.contains character = false := by
  simp only [Text.isPlain, Bool.and_eq_true, decide_eq_true_eq] at isPlain
  simp only [List.all_eq_true, decide_eq_true_eq] at all_later
  simp only [CodeRanges.contains, List.any_eq_false, Bool.and_eq_true, decide_eq_true_eq, not_and]
  intro range range_mem first_le
  have first_ge := all_later range range_mem
  omega

theorem exceptionalWidth?_of_lt (early : character.toNat < 0x115F) :
    exceptionalWidth? character = none := by
  simp only [exceptionalWidth?]
  split
  · omega
  · omega
  · omega
  · omega
  · rfl

/-- Control characters are among those that take no column. -/
theorem columns_of_isControl (isControl : isControl character) : columns character = 0 := by
  have not_exceptional : exceptionalWidth? character = none := by
    simp only [Text.isControl, Bool.or_eq_true, Bool.and_eq_true, decide_eq_true_eq] at isControl
    apply exceptionalWidth?_of_lt
    omega
  simp [columns, not_exceptional, isZeroWidth, isControl]

theorem columns_of_isPlain (isPlain : isPlain character) : columns character = 1 := by
  have not_exceptional : exceptionalWidth? character = none := by
    simp only [Text.isPlain, Bool.and_eq_true, decide_eq_true_eq] at isPlain
    apply exceptionalWidth?_of_lt
    omega
  have not_zero : isZeroWidth character = false := by
    simp only [isZeroWidth, isControl_of_isPlain isPlain, isGraphemeExtender, Bool.or_eq_false_iff]
    refine ⟨⟨⟨⟨trivial, ?_⟩, ?_⟩, ?_⟩, ?_⟩ <;>
      exact contains_of_isPlain isPlain (by decide +kernel)
  have not_wide : wideRanges.contains character = false :=
    contains_of_isPlain isPlain (by decide +kernel)
  simp [columns, not_exceptional, not_zero, not_wide]

theorem isPlain_of_isDigit (isDigit : character.isDigit) : isPlain character := by
  have bounds := isDigit_iff_bounds.1 isDigit
  simp only [isPlain, Bool.and_eq_true, decide_eq_true_eq]
  omega

end Text

theorem isPlain_of_mem_paddedDigits {length number : Nat} {character : Char}
    (character_mem : character ∈ paddedDigits length number) : Text.isPlain character :=
  Text.isPlain_of_isDigit (isDigit_of_mem_paddedDigits character_mem)

namespace FeedLine

variable {line : FeedLine} {withTime : Bool} {character : Char}

theorem isPlain_of_mem_timeLabel (character_mem : character ∈ line.timeLabel.toList) :
    Text.isPlain character := by
  simp only [timeLabel, Instant.timeLabel, String.toList_ofList, List.mem_append, List.mem_cons]
    at character_mem
  rcases character_mem with (hour_mem | rfl | minute_mem) | rfl | second_mem
  · exact isPlain_of_mem_paddedDigits hour_mem
  · decide
  · exact isPlain_of_mem_paddedDigits minute_mem
  · decide
  · exact isPlain_of_mem_paddedDigits second_mem

theorem isPlain_of_mem_tag {category : Category} (character_mem : character ∈ category.tag.toList) :
    Text.isPlain character := by
  have all_plain : category.tag.toList.all Text.isPlain := by
    cases category <;> decide
  exact List.all_eq_true.1 all_plain character character_mem

/-- What stands before the text in a line that is shown. -/
def label (line : FeedLine) (withTime : Bool) : List Char :=
  if withTime then line.timeLabel.toList ++ ' ' :: line.category.tag.toList ++ [' ']
  else line.category.tag.toList ++ [' ']

theorem toList_shown (line : FeedLine) (withTime : Bool) :
    (line.shown withTime).toList = line.label withTime ++ line.text.toList := by
  simp only [shown, label]
  split_ifs <;> simp

theorem isPlain_of_mem_label (character_mem : character ∈ line.label withTime) :
    Text.isPlain character := by
  simp only [label] at character_mem
  split_ifs at character_mem
  · simp only [List.mem_append, List.mem_cons, List.not_mem_nil, or_false] at character_mem
    rcases character_mem with (time_mem | rfl | tag_mem) | rfl
    · exact isPlain_of_mem_timeLabel time_mem
    · decide
    · exact isPlain_of_mem_tag tag_mem
    · decide
  · simp only [List.mem_append, List.mem_cons, List.not_mem_nil, or_false] at character_mem
    rcases character_mem with tag_mem | rfl
    · exact isPlain_of_mem_tag tag_mem
    · decide

theorem isControl_of_mem_shown (printable : ∀ character ∈ line.text.toList,
      Text.isControl character = false)
    (character_mem : character ∈ (line.shown withTime).toList) :
    Text.isControl character = false := by
  rw [toList_shown] at character_mem
  rcases List.mem_append.1 character_mem with label_mem | text_mem
  · exact Text.isControl_of_isPlain (isPlain_of_mem_label label_mem)
  · exact printable character text_mem

/-- A line that is shown starts with a character that takes a column. -/
theorem columns_pos_of_mem_head?_shown
    (character_mem : character ∈ (line.shown withTime).toList.head?) :
    0 < Text.columns character := by
  have label_ne_nil : line.label withTime ≠ [] := by
    simp only [label]
    split_ifs <;> simp
  rcases List.exists_cons_of_ne_nil label_ne_nil with ⟨first, rest, label_eq⟩
  have first_plain : Text.isPlain first := isPlain_of_mem_label (label_eq ▸ List.mem_cons_self)
  rw [toList_shown, label_eq] at character_mem
  simp only [List.cons_append, List.head?_cons, Option.mem_def, Option.some.injEq] at character_mem
  rw [← character_mem, Text.columns_of_isPlain first_plain]
  exact Nat.one_pos

end FeedLine

end ScriptedFeed
