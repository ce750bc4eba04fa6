import ScriptedFeed.Proofs.Display.Columns

/-!
# Cutting a text, and cutting it again

What is kept of a text is determined by being the longest part from its start that fits, whatever
the columns of the characters are. Characters that take no column are therefore kept as far as they
follow what fits, a character that takes two is kept as a whole or not at all, and cutting what is
left of a text once more gives what the narrower of both widths leaves.
-/

namespace ScriptedFeed

variable {columnsOf : Char → Nat} {room first second : Nat} {text cut again other : List Char}

theorem totalColumns_le_of_starts (starts : cut <+: text) :
    totalColumns columnsOf cut ≤ totalColumns columnsOf text := by
  rcases starts with ⟨rest, rfl⟩
  simp [totalColumns]

namespace IsLongestFit

theorem of_fits (fits : totalColumns columnsOf text ≤ room) :
    IsLongestFit columnsOf room text text :=
  ⟨List.prefix_rfl, fits, fun _ starts _ => starts⟩

theorem lt_totalColumns (isFit : IsLongestFit columnsOf room text cut) (starts : other <+: text)
    (longer : cut.length < other.length) : room < totalColumns columnsOf other := by
  by_contra not_wider
  have other_starts : other <+: cut := by
    apply isFit.longest
    · exact starts
    · exact Nat.le_of_not_lt not_wider
  have length_le := other_starts.length_le
  omega

/-- What fits best into what fits best is what fits best into the narrower of both widths. -/
theorem trans (isFit : IsLongestFit columnsOf first text cut)
    (again_isFit : IsLongestFit columnsOf second cut again) :
    IsLongestFit columnsOf (min first second) text again := by
  refine ⟨?_, ?_, ?_⟩
  · exact again_isFit.starts.trans isFit.starts
  · apply le_min
    · exact (totalColumns_le_of_starts again_isFit.starts).trans isFit.fits
    · exact again_isFit.fits
  · intro other starts fits
    apply again_isFit.longest
    · apply isFit.longest
      · exact starts
      · exact fits.trans (min_le_left _ _)
    · exact fits.trans (min_le_right _ _)

end IsLongestFit

/-- A text cut to some columns, if its characters take as many as a function tells. -/
def cutTo (columnsOf : Char → Nat) (width : Nat) (text : String) : String :=
  String.ofList (fitColumns columnsOf width text.toList)

section Cut

variable (columnsOf : Char → Nat) (width : Nat) (text : String)

theorem isLongestFit_cutTo :
    IsLongestFit columnsOf width text.toList (cutTo columnsOf width text).toList := by
  rw [cutTo, String.toList_ofList]
  exact isLongestFit_fitColumns columnsOf width text.toList

theorem cutTo_eq_of_isLongestFit {kept : String}
    (isFit : IsLongestFit columnsOf width text.toList kept.toList) :
    cutTo columnsOf width text = kept := by
  apply String.toList_inj.1
  exact (isLongestFit_cutTo columnsOf width text).eq isFit

theorem cutTo_cutTo (other : Nat) :
    cutTo columnsOf other (cutTo columnsOf width text) =
      cutTo columnsOf (min width other) text := by
  symm
  apply cutTo_eq_of_isLongestFit
  apply IsLongestFit.trans
  · exact isLongestFit_cutTo columnsOf width text
  · exact isLongestFit_cutTo columnsOf other _

end Cut

/--
Whatever columns its characters take, cutting a text to a width keeps a part from its start that
fits, and every longer part is wider. A text that fits is kept as it is, and cutting to one width
after another is cutting to the narrower one. Lines of the feed are cut like this, by the columns
of a terminal, where control characters take none.
-/
theorem cut_keeps_longest_fit (columnsOf : Char → Nat) (width : Nat) (text : String) :
    let cut := cutTo columnsOf width text
    (∃ rest, text = cut ++ rest) ∧
    totalColumns columnsOf cut.toList ≤ width ∧
    (∀ longer rest, text = longer ++ rest → cut.length < longer.length →
      width < totalColumns columnsOf longer.toList) ∧
    (totalColumns columnsOf text.toList ≤ width → cut = text) ∧
    (∀ other, cutTo columnsOf other cut = cutTo columnsOf (min width other) text) ∧
    cutToWidth width text = cutTo Text.columns width text ∧
    (∀ character, Text.isControl character → Text.columns character = 0) := by
  intro cut
  have isFit : IsLongestFit columnsOf width text.toList cut.toList :=
    isLongestFit_cutTo columnsOf width text
  refine ⟨?_, isFit.fits, ?_, ?_, ?_, rfl, ?_⟩
  · rcases isFit.starts with ⟨rest, starts⟩
    refine ⟨String.ofList rest, ?_⟩
    apply String.toList_inj.1
    simp [← starts]
  · intro longer rest text_eq length_lt
    apply isFit.lt_totalColumns
    · exact ⟨rest.toList, by simp [text_eq]⟩
    · rwa [String.length_toList, String.length_toList]
  · intro fits
    apply cutTo_eq_of_isLongestFit
    exact .of_fits fits
  · intro other
    exact cutTo_cutTo columnsOf width text other
  · intro character isControl
    exact Text.columns_of_isControl isControl

/-- An accent that takes no column is kept, and the wide character after it has no room. -/
theorem cut_keeps_longest_fit_before_wide_character :
    let text := "e\u0301\u6F22x"
    cutToWidth 2 text = "e\u0301" ∧ 2 < totalColumns Text.columns "e\u0301\u6F22".toList ∧
      cutToWidth 1 (cutToWidth 2 text) = cutToWidth 1 text := by
  intro text
  have cut_eq : cutToWidth 2 text = "e\u0301" := by decide +kernel
  rcases cut_keeps_longest_fit Text.columns 2 text with ⟨-, -, wider, -, again, -⟩
  refine ⟨cut_eq, ?_, again 1⟩
  apply wider "e\u0301\u6F22" "x" rfl
  exact (congrArg String.length cut_eq).trans_lt (by decide)

end ScriptedFeed
