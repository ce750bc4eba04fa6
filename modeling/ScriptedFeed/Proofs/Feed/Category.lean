import Mathlib.Data.List.Infix
import Mathlib.Order.MinMax
import ScriptedFeed.Feed.Category

/-!
# The category of a text that is joined from others

A text has the most urgent category with a marker in it. A marker that occurs in a part of a text
occurs in the text, so a longer text is never less urgent. When two texts are joined with characters
between them that no marker has, no marker reaches from one to the other, and the more urgent of
both decides. Without such characters a marker can begin in one text and end in the other.
-/

namespace ScriptedFeed

section Occurrence

variable {pattern first separator second text rest : List Char} {character : Char}

theorem occursIn_iff : occursIn pattern text ↔ pattern <:+: text := by
  induction text with
  | nil => simp [occursIn]
  | cons character rest ih =>
      rw [occursIn, Bool.or_eq_true, ih, List.isPrefixOf_iff_prefix, List.infix_cons_iff]

theorem eq_nil_of_prefix_cons (starts : pattern <+: character :: rest)
    (apart : character ∉ pattern) : pattern = [] := by
  cases pattern with
  | nil => rfl
  | cons head tail =>
      rcases List.cons_prefix_cons.1 starts with ⟨rfl, -⟩
      exact absurd List.mem_cons_self apart

theorem infix_of_infix_separator_append (apart : ∀ character ∈ separator, character ∉ pattern)
    (occurs : pattern <:+: separator ++ second) : pattern <:+: second := by
  induction separator with
  | nil => exact occurs
  | cons character separator ih =>
      rw [List.cons_append, List.infix_cons_iff] at occurs
      rcases occurs with starts | later
      · rw [eq_nil_of_prefix_cons starts (apart character List.mem_cons_self)]
        exact List.nil_infix
      · apply ih
        · intro other other_mem
          exact apart other (List.mem_cons_of_mem character other_mem)
        · exact later

/-- What has none of the characters between two texts does not reach from one to the other. -/
theorem infix_join_iff (not_empty : separator ≠ [])
    (apart : ∀ character ∈ separator, character ∉ pattern) :
    pattern <:+: first ++ separator ++ second ↔ pattern <:+: first ∨ pattern <:+: second := by
  constructor
  · intro occurs
    rw [List.append_assoc, List.infix_append_iff] at occurs
    rcases occurs with in_first | later | ⟨before, after, rfl, ends, starts⟩
    · exact .inl in_first
    · exact .inr (infix_of_infix_separator_append apart later)
    · -- What reaches into the separator has none of its first character, so it ends before it.
      rcases List.exists_cons_of_ne_nil not_empty with ⟨character, others, rfl⟩
      have not_mem : character ∉ after := fun character_mem =>
        apart character List.mem_cons_self (List.mem_append_right before character_mem)
      rw [eq_nil_of_prefix_cons starts not_mem, List.append_nil]
      exact .inl ends.isInfix
  · rintro (in_first | in_second)
    · exact in_first.trans ⟨[], separator ++ second, by simp⟩
    · exact in_second.trans ⟨first ++ separator, [], by simp⟩

end Occurrence

namespace Category

/-- How urgent a category is, among all of them. -/
def urgency : Category → Nat
  | warning => 3
  | execution => 2
  | success => 1
  | info => 0

theorem urgency_injective : Function.Injective urgency := by
  intro first second same
  cases first <;> cases second <;> simp_all [urgency]

/-- Of two categories, the greater one is the more urgent one. -/
instance : LinearOrder Category :=
  LinearOrder.lift' urgency urgency_injective

theorem info_le (category : Category) : info ≤ category :=
  Nat.zero_le category.urgency

theorem pairwise_byUrgency : byUrgency.Pairwise (· > ·) := by
  decide

section Announced

variable {category : Category} {text longer : List Char}

theorem isAnnouncedBy_iff :
    category.isAnnouncedBy text ↔ ∃ marker ∈ category.markers, marker.toList <:+: text := by
  simp only [isAnnouncedBy, List.any_eq_true, occursIn_iff]

theorem mem_byUrgency_of_isAnnouncedBy (announced : category.isAnnouncedBy text) :
    category ∈ byUrgency := by
  cases category with
  | warning | execution | success => decide
  | info => cases announced

theorem isAnnouncedBy_of_isInfix (isPart : text <:+: longer)
    (announced : category.isAnnouncedBy text) : category.isAnnouncedBy longer := by
  rw [isAnnouncedBy_iff] at announced ⊢
  rcases announced with ⟨marker, marker_mem, occurs⟩
  exact ⟨marker, marker_mem, occurs.trans isPart⟩

end Announced

section Classified

variable {category : Category} {text longer first separator second : String}

theorem isAnnouncedBy_classify (text : String) :
    classify text = info ∨ (classify text).isAnnouncedBy text.toList := by
  rw [classify]
  cases found : byUrgency.find? fun category => category.isAnnouncedBy text.toList with
  | none => exact .inl rfl
  | some category =>
      have announced := List.find?_some found
      exact .inr announced

/-- No category that a text announces is more urgent than the category of the text. -/
theorem le_classify_of_isAnnouncedBy (announced : category.isAnnouncedBy text.toList) :
    category ≤ classify text := by
  have category_mem := mem_byUrgency_of_isAnnouncedBy announced
  rw [classify]
  cases found : byUrgency.find? fun category => category.isAnnouncedBy text.toList with
  | none => exact absurd announced (List.find?_eq_none.1 found category category_mem)
  | some decisive =>
      rcases List.find?_eq_some_iff_append.1 found with ⟨-, before, after, split, not_announced⟩
      have sorted := pairwise_byUrgency
      rw [split, List.pairwise_append, List.pairwise_cons] at sorted
      rw [split, List.mem_append, List.mem_cons] at category_mem
      rcases category_mem with in_before | rfl | in_after
      · have silent := not_announced category in_before
        simp [announced] at silent
      · exact le_rfl
      · exact (sorted.2.1.1 category in_after).le

/-- Whether a text is at least as urgent as a category shows in what the text announces. -/
theorem le_classify_iff :
    category ≤ classify text ↔
      category = info ∨ ∃ urgent : Category, category ≤ urgent ∧
        urgent.isAnnouncedBy text.toList := by
  constructor
  · intro le_category
    rcases isAnnouncedBy_classify text with isInfo | announced
    · rw [isInfo] at le_category
      exact .inl (le_category.antisymm (info_le category))
    · exact .inr ⟨classify text, le_category, announced⟩
  · rintro (rfl | ⟨urgent, le_urgent, announced⟩)
    · exact info_le _
    · exact le_urgent.trans (le_classify_of_isAnnouncedBy announced)

theorem classify_le_of_isInfix (isPart : text.toList <:+: longer.toList) :
    classify text ≤ classify longer := by
  rcases isAnnouncedBy_classify text with isInfo | announced
  · rw [isInfo]
    exact info_le _
  · exact le_classify_of_isAnnouncedBy (isAnnouncedBy_of_isInfix isPart announced)

/-- A text keeps markers apart: it has some characters, and no marker has any of them. -/
structure Separates (separator : String) : Prop where
  not_empty : separator ≠ ""
  apart : ∀ category : Category, ∀ marker ∈ category.markers,
    ∀ character ∈ separator.toList, character ∉ marker.toList

theorem Separates.isAnnouncedBy_iff (separates : Separates separator) :
    category.isAnnouncedBy (first ++ separator ++ second).toList ↔
      category.isAnnouncedBy first.toList ∨ category.isAnnouncedBy second.toList := by
  have not_empty : separator.toList ≠ [] := by
    simpa using separates.not_empty
  simp only [Category.isAnnouncedBy_iff, String.toList_append, ← exists_or, ← and_or_left]
  apply exists_congr
  intro marker
  apply and_congr_right
  intro marker_mem
  exact infix_join_iff not_empty (separates.apart category marker marker_mem)

theorem Separates.classify_eq (separates : Separates separator) :
    classify (first ++ separator ++ second) = max (classify first) (classify second) := by
  apply eq_of_forall_le_iff
  intro category
  rw [le_max_iff, le_classify_iff, le_classify_iff, le_classify_iff]
  simp only [separates.isAnnouncedBy_iff, and_or_left, exists_or]
  exact or_or_distrib_left

end Classified

/--
The category of a text is the most urgent one with a marker in the text. A warning is more urgent
than an execution, this than a success, and this than a line without any marker. Two texts with
characters between them that no marker has are as urgent as the more urgent of both, and two texts
without such characters between them are not less urgent than that.
-/
theorem joined_texts_keep_most_urgent :
    (∀ first separator second : String, Separates separator →
      classify (first ++ separator ++ second) = max (classify first) (classify second)) ∧
    (∀ first second : String,
      classify first ≤ classify (first ++ second) ∧
      classify second ≤ classify (first ++ second)) ∧
    (∀ (category : Category) (text : String), category ≤ classify text ↔
      category = info ∨ ∃ urgent : Category, category ≤ urgent ∧
        ∃ marker ∈ urgent.markers, marker.toList <:+: text.toList) ∧
    info < success ∧ success < execution ∧ execution < warning := by
  refine ⟨?_, ?_, ?_, by decide, by decide, by decide⟩
  · intro first separator second separates
    exact separates.classify_eq
  · intro first second
    constructor
    · apply classify_le_of_isInfix
      rw [String.toList_append]
      exact (List.prefix_append _ _).isInfix
    · apply classify_le_of_isInfix
      rw [String.toList_append]
      exact (List.suffix_append _ _).isInfix
  · intro category text
    simp only [le_classify_iff, isAnnouncedBy_iff]

/-- A warning that begins in one text and ends in the other is none with a bar between them. -/
theorem joined_texts_keep_most_urgent_around_bar :
    let first := "FILLED WAWAR"
    let second := "N EXEXEC"
    Separates " | " ∧ classify (first ++ " | " ++ second) = execution ∧
      execution ≤ classify (first ++ second) ∧ classify (first ++ second) = warning := by
  intro first second
  have separates : Separates " | " := by
    refine ⟨by decide, ?_⟩
    intro category
    cases category <;> simp [markers]
  rcases joined_texts_keep_most_urgent with ⟨joins, grows, -⟩
  have second_eq : classify second = execution := by decide
  refine ⟨separates, ?_, ?_, by decide⟩
  · rw [joins first " | " second separates, second_eq]
    decide
  · rw [← second_eq]
    exact (grows first second).2

end Category

end ScriptedFeed
