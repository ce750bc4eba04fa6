import ScriptedFeed.Proofs.Script.Reading

/-!
# Both readers of a script agree

An authored document and one that the program has written are read by different readers: delays are
signed in the one and unsigned in the other, and only an author may call a delay by its short name.
As long as no line of a document uses that name, and for scripts whose delays both readers can
give, each of them reads a script from the document if and only if the other does. Everything else
about the document, down to members that are repeated or unknown, matters to both in the same way.
-/

namespace ScriptedFeed

namespace Script

open Json

variable {name : String} {written document : List UInt8} {script : Script}
  {members : List (String × List UInt8)}

/-- Something written is an object with a member of some name. -/
def NamesMember (name : String) (written : List UInt8) : Prop :=
  ∃ members, IsObject members written ∧ name ∈ members.map Prod.fst

/-- A document holds a script one of whose scheduled lines has a member of some name. -/
def LineNames (name : String) (document : List UInt8) : Prop :=
  ∃ before written after, document = before ++ (written ++ after) ∧ IsBlanks before ∧
    IsBlanks after ∧ ∃ elements, HasEntries written elements ∧
      ∃ element ∈ elements, NamesMember name element

section Names

/-- A line means the same under other names of its delay that none of its members tells apart. -/
theorem isEntry_congr {names others : List String} {line : ScheduledLine}
    (same : ∀ members, IsObject members written → ∀ member ∈ members,
      member.1 ∈ names ↔ member.1 ∈ others)
    (isEntry : IsEntry names written line) : IsEntry others written line := by
  cases isEntry with
  | object isObject text_gives delay_gives =>
      exact .object isObject text_gives (delay_gives.congr (same _ isObject))
  | two isArray isText isDelay => exact .two isArray isText isDelay

theorem mem_delayNames_iff (not_named : ¬ NamesMember "delay" written)
    (isObject : IsObject members written) :
    ∀ member ∈ members, member.1 ∈ ["delay_ms"] ↔ member.1 ∈ ["delay_ms", "delay"] := by
  intro member member_mem
  have not_delay : member.1 ≠ "delay" := by
    rintro isDelay
    exact not_named ⟨members, isObject, List.mem_map.2 ⟨member, member_mem, isDelay⟩⟩
  simp [not_delay]

/-- A script whose lines do not use the short name is the same with this name and without it. -/
theorem isScript_iff
    (none_named : ∀ elements, HasEntries written elements → ∀ element ∈ elements,
      ¬ NamesMember "delay" element) :
    IsScript (IsEntry ["delay_ms"]) written (script.seed, script.scheduled) ↔
      IsScript (IsEntry ["delay_ms", "delay"]) written (script.seed, script.scheduled) := by
  have same {elements : List (List UInt8)} (hasEntries : HasEntries written elements)
      {element : List UInt8} (element_mem : element ∈ elements)
      {members : List (String × List UInt8)} (isObject : IsObject members element) :=
    mem_delayNames_iff (none_named elements hasEntries element element_mem) isObject
  constructor
  · intro isScript
    have changed := isScript.map fun elements hasEntries element element_mem line _ isEntry =>
      isEntry_congr (fun members isObject => same hasEntries element_mem isObject) isEntry
    rwa [List.map_id'] at changed
  · intro isScript
    have changed := isScript.map fun elements hasEntries element element_mem line _ isEntry =>
      isEntry_congr (fun members isObject member member_mem =>
        (same hasEntries element_mem isObject member member_mem).symm) isEntry
    rwa [List.map_id'] at changed

/-- A document without escapes has the name of every member of its lines in it, between marks. -/
theorem LineNames.isInfix (named : LineNames name document) (no_escape : backslash ∉ document) :
    Text.quotationMark :: (Text.bytesOf name ++ [Text.quotationMark]) <:+: document := by
  rcases named with ⟨before, written, after, document_eq, -, -, elements, hasEntries, element,
    element_mem, members, isObject, name_mem⟩
  have written_isInfix : written <:+: document := ⟨before, after, by simp [document_eq]⟩
  have element_isInfix : element <:+: written := by
    cases hasEntries with
    | object isObject entries_mem isArray =>
        exact (isArray.isInfix element element_mem).trans (isObject.isInfix _ entries_mem)
    | array isPair isArray =>
        exact (isArray.isInfix element element_mem).trans (isPair.isInfix _ (by simp))
  rcases List.mem_map.1 name_mem with ⟨member, member_mem, rfl⟩
  rcases isObject.exists_isText member member_mem with ⟨text, isText, text_isInfix⟩
  have isInfix := text_isInfix.trans (element_isInfix.trans written_isInfix)
  rwa [← isText.eq_of_notMem fun escape_mem => no_escape (isInfix.subset escape_mem)]

end Names

/--
If no scheduled line of a document has a member named by the short name of a delay, then the reader
of the program's own documents reads a script from it, with delays below two to the power of 63, if
and only if this script is read from it as an authored document.
-/
theorem readDocument_iff_ofDocument (none_named : ¬ LineNames "delay" document)
    (all_small : ∀ line ∈ script.scheduled, line.delay.toNat < 2 ^ 63) :
    readDocument Script.read document = .ok script ↔ ofDocument document = .ok script := by
  rw [readDocument_read_eq_ok_iff, ofDocument_eq_ok_iff, and_iff_right all_small]
  refine exists_congr fun before => exists_congr fun written => exists_congr fun after => ?_
  refine and_congr_right fun document_eq => and_congr_right fun before_blank =>
    and_congr_right fun after_blank => isScript_iff ?_
  intro elements hasEntries element element_mem named
  exact none_named ⟨before, written, after, document_eq, before_blank, after_blank, elements,
    hasEntries, element, element_mem, named⟩

/-- A script as an array, of whose lines one is an object with a member of another name. -/
theorem readDocument_iff_ofDocument_of_both_forms :
    let document := Text.bytesOf
      "[[\"$ boot\"], [\x7b\"note\": [1e400], \"delay_ms\": 7, \"text\": \"a\"\x7d, [\"done\", 0]]]"
    let script : Script := ⟨["$ boot"], [⟨"a", 7⟩, ⟨"done", 0⟩]⟩
    readDocument Script.read document = .ok script ∧ ofDocument document = .ok script := by
  intro document script
  have none_named : ¬ LineNames "delay" document := by
    intro named
    exact absurd (named.isInfix (by decide)) (by decide +kernel)
  have read : ofDocument document = .ok script := by decide +kernel
  exact ⟨(readDocument_iff_ofDocument none_named (by decide)).2 read, read⟩

end Script

end ScriptedFeed
