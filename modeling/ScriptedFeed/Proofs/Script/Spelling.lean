import ScriptedFeed.Proofs.Script.Reading

/-!
# A script may be written down in many ways

An authored document denotes a script however its objects are written: their members may stand in
any order and among members with other names, texts may be spelt with any escapes, delays may go by
either of their names, arrays without elements may be left out, and blanks may stand anywhere. The
script that is read does not depend on any of this.
-/

namespace ScriptedFeed

namespace Script

open Json

variable {α : Type} {written document : List UInt8} {script : Script}

/-- A scheduled line as an object, with its members in any order and whatever other members. -/
inductive SpellsLine (written : List UInt8) (line : ScheduledLine) : Prop where
  | mk {members others : List (String × List UInt8)} {text delay : List UInt8} {delayName : String}
      (isObject : IsObject members written)
      (any_order : members.Perm (("text", text) :: (delayName, delay) :: others))
      (isText : IsText text line.text) (isDelay : IsDelay delay line.delay)
      (isDelayName : delayName = "delay_ms" ∨ delayName = "delay")
      (others_apart : ∀ other ∈ others, other.1 ∉ ["text", "delay_ms", "delay"])

/-- An array under a name, which may be left out if it has no elements. -/
inductive SpellsArray (name : String) (Means : List UInt8 → α → Prop) :
    List (String × List UInt8) → List α → Prop where
  | absent : SpellsArray name Means [] []
  | present {elements : List (List UInt8)} {written : List UInt8} {values : List α}
      (isArray : IsArray elements written) (all_mean : List.Forall₂ Means elements values) :
      SpellsArray name Means [(name, written)] values

/-- A script as an object, with its members in any order and whatever other members. -/
inductive SpellsScript (written : List UInt8) (script : Script) : Prop where
  | mk {members seed scheduled others : List (String × List UInt8)}
      (isObject : IsObject members written)
      (any_order : members.Perm (seed ++ (scheduled ++ others)))
      (seed_spelt : SpellsArray "seed" IsText seed script.seed)
      (scheduled_spelt : SpellsArray "entries" SpellsLine scheduled script.scheduled)
      (others_apart : ∀ other ∈ others, other.1 ∉ ["seed", "entries"])

/-- A document that holds a script, with blanks around it. -/
def SpellsDocument (document : List UInt8) (script : Script) : Prop :=
  ∃ before written after, document = before ++ (written ++ after) ∧ IsBlanks before ∧
    IsBlanks after ∧ SpellsScript written script

section Gives

variable {names : List String} {Means : List UInt8 → α → Prop}
  {members others : List (String × List UInt8)}

theorem filter_eq_nil_of_apart (others_apart : ∀ other ∈ others, other.1 ∉ names) :
    others.filter (·.1 ∈ names) = [] := by
  rw [List.filter_eq_nil_iff]
  simpa using others_apart

/-- A member is given wherever it stands, if no other has one of its names. -/
theorem gives_of_perm {name : String} {value : α} (isNamed : name ∈ names)
    (means : Means written value) (any_order : members.Perm ((name, written) :: others))
    (others_apart : ∀ other ∈ others, other.1 ∉ names) :
    Gives names Means members (some value) := by
  have filter_perm := any_order.filter (·.1 ∈ names)
  rw [List.filter_cons_of_pos (by simpa using isNamed),
    filter_eq_nil_of_apart others_apart] at filter_perm
  exact .present (List.perm_singleton.1 filter_perm) means

/-- An array is given wherever it stands; one that is left out counts as without elements. -/
theorem SpellsArray.exists_gives {name : String} {given : List (String × List UInt8)}
    {values : List α} (spells : SpellsArray name Means given values)
    (any_order : members.Perm (given ++ others))
    (others_apart : ∀ other ∈ others, other.1 ∉ [name]) :
    ∃ values?, Gives [name] (IsArrayOf Means) members values? ∧ values = values?.getD [] := by
  cases spells with
  | absent =>
      have filter_perm := any_order.filter (·.1 ∈ [name])
      rw [List.nil_append, filter_eq_nil_of_apart others_apart] at filter_perm
      exact ⟨none, .absent (List.perm_nil.1 filter_perm), rfl⟩
  | present isArray all_mean =>
      exact ⟨some values, gives_of_perm List.mem_cons_self ⟨_, isArray, all_mean⟩ any_order
        others_apart, rfl⟩

theorem SpellsArray.imp {Other : List UInt8 → α → Prop} {name : String}
    {given : List (String × List UInt8)} {values : List α}
    (spells : SpellsArray name Means given values)
    (weaken : ∀ written value, Means written value → Other written value) :
    SpellsArray name Other given values := by
  cases spells with
  | absent => exact .absent
  | present isArray all_mean => exact .present isArray (all_mean.imp weaken)

theorem SpellsArray.name_eq {name : String} {given : List (String × List UInt8)} {values : List α}
    (spells : SpellsArray name Means given values) : ∀ member ∈ given, member.1 = name := by
  cases spells <;> simp

end Gives

theorem SpellsLine.isEntry {line : ScheduledLine} (spells : SpellsLine written line) :
    IsEntry ["delay_ms", "delay"] written line := by
  rcases spells with ⟨isObject, any_order, isText, isDelay, isDelayName, others_apart⟩
  next members others text delay delayName =>
  have text_gives : Gives ["text"] IsText members (some line.text) := by
    refine gives_of_perm List.mem_cons_self isText any_order (List.forall_mem_cons.2 ⟨?_, ?_⟩)
    · rcases isDelayName with rfl | rfl <;> simp
    · intro other other_mem
      have apart := others_apart other other_mem
      simp only [List.mem_cons, not_or] at apart ⊢
      exact ⟨apart.1, apart.2.2.2⟩
  have delay_gives : Gives ["delay_ms", "delay"] IsDelay members (some line.delay) := by
    refine gives_of_perm (by simpa using isDelayName) isDelay
      (any_order.trans (List.Perm.swap _ _ _)) (List.forall_mem_cons.2 ⟨by simp, ?_⟩)
    intro other other_mem
    exact fun isDelayName => others_apart other other_mem (List.mem_cons_of_mem _ isDelayName)
  exact .object isObject text_gives delay_gives

theorem SpellsScript.isScript (spells : SpellsScript written script) :
    IsScript (IsEntry ["delay_ms", "delay"]) written (script.seed, script.scheduled) := by
  rcases spells with ⟨isObject, any_order, seed_spelt, scheduled_spelt, others_apart⟩
  next members seed scheduled others =>
  have seed_apart : ∀ other ∈ scheduled ++ others, other.1 ∉ ["seed"] := by
    intro other other_mem
    rcases List.mem_append.1 other_mem with given | other_mem
    · simp [scheduled_spelt.name_eq other given]
    · exact fun isSeed => others_apart other other_mem
        (List.mem_cons.2 (.inl (List.mem_singleton.1 isSeed)))
  have scheduled_apart : ∀ other ∈ seed ++ others, other.1 ∉ ["entries"] := by
    intro other other_mem
    rcases List.mem_append.1 other_mem with given | other_mem
    · simp [seed_spelt.name_eq other given]
    · exact fun isScheduled => others_apart other other_mem (List.mem_cons_of_mem _ isScheduled)
  rcases seed_spelt.exists_gives any_order seed_apart with ⟨seed?, seed_gives, seed_eq⟩
  rcases (scheduled_spelt.imp fun _ _ => SpellsLine.isEntry).exists_gives
    (any_order.trans (List.perm_append_comm_assoc _ _ _)) scheduled_apart with
    ⟨scheduled?, scheduled_gives, scheduled_eq⟩
  refine ⟨seed?, scheduled?, .object isObject seed_gives scheduled_gives, ?_⟩
  rw [seed_eq, scheduled_eq]

/--
An authored document holds a script, in any of the ways in which one may be written down: its
members and those of its lines in any order and among others, its texts with any escapes, its
delays under either name, its arrays left out where they have no elements, and blanks anywhere. If
the delays are below two to the power of 63, then exactly this script is read from the document.
-/
theorem ofDocument_of_spelling (spells : SpellsDocument document script)
    (all_small : ∀ line ∈ script.scheduled, line.delay.toNat < 2 ^ 63) :
    ofDocument document = .ok script := by
  rcases spells with ⟨before, written, after, document_eq, before_blank, after_blank, spells⟩
  exact ofDocument_eq_ok_iff.2
    ⟨all_small, before, written, after, document_eq, before_blank, after_blank, spells.isScript⟩

/-- A line whose delay stands first and under its short name, before a member of another name. -/
theorem ofDocument_of_spelling_out_of_order :
    ofDocument (Text.bytesOf
      " \x7b\"entries\":[\x7b\"delay\":5,\"text\":\"\\uD834\\udd1e\"\x7d],\"id\":[\x7b\x7d]\x7d") =
        .ok ⟨[], [⟨"𝄞", 5⟩]⟩ := by
  have named (name : String) (plain : ∀ byte ∈ Text.bytesOf name,
      byte ≠ Text.quotationMark ∧ byte ≠ backslash ∧ 0x20 ≤ byte) : IsNamed (IsText · name) _ :=
    .mk IsBlanks.nil (.mk (spells_self plain)) IsBlanks.nil IsBlanks.nil
  have later : IsGap false [Text.comma] := .later IsBlanks.nil
  have leading : SpellsUnit (Text.bytesOf "D834") 0xD834 := ⟨13, 8, 3, 4, by decide, rfl⟩
  have trailing : SpellsUnit (Text.bytesOf "dd1e") 0xDD1E := ⟨13, 13, 1, 14, by decide, rfl⟩
  have isText : IsText _ "𝄞" := .mk (.escape (.pair leading trailing rfl rfl rfl) .nil)
  have isDelay : IsDelay [0x35] 5 := by rfl
  have delay_value : IsValue [0x35] := .number (isDelay ▸ .positive (isNumeral_decimalDigits 5))
  have isEntry : IsObject [("delay", [0x35]), ("text", _)] _ :=
    .mk (.item _ _ .first (named "delay" (by decide +kernel))
      (.item _ _ later (named "text" (by decide +kernel)) (.close false IsBlanks.nil)))
      (List.forall_mem_cons.2 ⟨delay_value, List.forall_mem_singleton.2
        (.text isText.isLooseText)⟩)
  have entries : IsArray [_] _ :=
    .mk (.item () _ .first IsBlanks.nil (.close false IsBlanks.nil))
      (List.forall_mem_singleton.2 isEntry.isValue)
  have no_members : IsObject [] _ := .mk (.close true IsBlanks.nil) (by simp)
  have unknown : IsArray [_] _ :=
    .mk (.item () _ .first IsBlanks.nil (.close false IsBlanks.nil))
      (List.forall_mem_singleton.2 no_members.isValue)
  have isObject : IsObject [("entries", _), ("id", _)] _ :=
    .mk (.item _ _ .first (named "entries" (by decide +kernel))
      (.item _ _ later (named "id" (by decide +kernel)) (.close false IsBlanks.nil)))
      (List.forall_mem_cons.2 ⟨entries.isValue, List.forall_mem_singleton.2 unknown.isValue⟩)
  have line_spelt : SpellsLine _ ⟨"𝄞", 5⟩ :=
    .mk isEntry (.swap _ _ []) isText isDelay (.inr rfl) (by simp)
  have spells : SpellsScript _ ⟨[], [⟨"𝄞", 5⟩]⟩ :=
    .mk isObject (.refl _) .absent (.present entries (.cons line_spelt .nil)) (by simp)
  have before_blank : IsBlanks [0x20] := by simp [IsBlanks, isBlank]
  refine ofDocument_of_spelling ⟨[0x20], _, [], ?_, before_blank, IsBlanks.nil, spells⟩ ?_
  · decide
  · decide

end Script

end ScriptedFeed
