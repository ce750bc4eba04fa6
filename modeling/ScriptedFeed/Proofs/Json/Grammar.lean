import Mathlib.Data.List.Infix
import Mathlib.Data.List.TakeWhile
import ScriptedFeed.Json.Skip
import ScriptedFeed.Proofs.Json.Value

/-!
# What a document may hold

The form of a document, as far as it does not depend on who reads it. A value is a word, a number,
a text between its marks, or an array or object; the items of an array or object are separated by
commas, with blanks around every part. The members of an object have texts as names, and a value
that is passed over may have names and texts that stand for no characters.
-/

namespace ScriptedFeed

namespace Json

variable {ν μ : Type} {byte : UInt8} {bytes written rest : List UInt8}

section Grammar

/-- Bytes that may stand between the parts of a document. -/
def IsBlanks (bytes : List UInt8) : Prop :=
  ∀ byte ∈ bytes, isBlank byte

/-- Some digits, of which there has to be one. -/
inductive IsDigits : List UInt8 → Prop where
  | mk {first : UInt8} {others : List UInt8} (first_digit : isDigit first)
      (others_digits : ∀ byte ∈ others, isDigit byte) : IsDigits (first :: others)

/-- The digits before the point of a number, among which a zero stands first only alone. -/
inductive IsWhole : List UInt8 → Prop where
  | mk {first : UInt8} {others : List UInt8} (first_digit : isDigit first)
      (others_digits : ∀ byte ∈ others, isDigit byte) (alone : digitOf first = 0 → others = []) :
      IsWhole (first :: others)

/-- The point of a number and the digits after it, or neither. -/
inductive IsFraction : List UInt8 → Prop where
  | absent : IsFraction []
  | present {digits : List UInt8} (isDigits : IsDigits digits) : IsFraction (point :: digits)

/-- The power of ten of a number, or nothing. -/
inductive IsPower : List UInt8 → Prop where
  | absent : IsPower []
  | present {mark : UInt8} {sign digits : List UInt8} (isMark : isExponentMark mark)
      (isSign : sign = [] ∨ sign = [plus] ∨ sign = [minus]) (isDigits : IsDigits digits) :
      IsPower (mark :: (sign ++ digits))

/-- A number without its sign. -/
inductive IsNumeral : List UInt8 → Prop where
  | mk {whole fraction power : List UInt8} (isWhole : IsWhole whole)
      (isFraction : IsFraction fraction) (isPower : IsPower power) :
      IsNumeral (whole ++ (fraction ++ power))

inductive IsNumber : List UInt8 → Prop where
  | positive {numeral : List UInt8} (isNumeral : IsNumeral numeral) : IsNumber numeral
  | negative {numeral : List UInt8} (isNumeral : IsNumeral numeral) : IsNumber (minus :: numeral)

/-- What stands after the backslash of an escape in a text that is passed over. -/
inductive IsLooseEscape : List UInt8 → Prop where
  | short (letter : UInt8) (isShort : (shortEscape? letter).isSome) : IsLooseEscape [letter]
  | unit {digits : List UInt8} {unit : Nat} (spells : SpellsUnit digits unit) :
      IsLooseEscape (0x75 :: digits)

/-- What stands between the marks of a text that is passed over. -/
inductive IsLooseBody : List UInt8 → Prop where
  | nil : IsLooseBody []
  | byte (byte : UInt8) {written : List UInt8} (not_mark : byte ≠ Text.quotationMark)
      (not_escape : byte ≠ backslash) (not_control : 0x20 ≤ byte) (isBody : IsLooseBody written) :
      IsLooseBody (byte :: written)
  | escape {letters written : List UInt8} (isEscape : IsLooseEscape letters)
      (isBody : IsLooseBody written) : IsLooseBody (backslash :: letters ++ written)

/-- A text that is passed over, with its marks. -/
inductive IsLooseText : List UInt8 → Prop where
  | mk {body : List UInt8} (isBody : IsLooseBody body) :
      IsLooseText (Text.quotationMark :: (body ++ [Text.quotationMark]))

/-- A text with its marks, in any of its spellings. -/
inductive IsText : List UInt8 → String → Prop where
  | mk {body : List UInt8} {text : String} (spells : Spells body (Text.bytesOf text)) :
      IsText (Text.quotationMark :: (body ++ [Text.quotationMark])) text

/-- The name of a member and its colon, with the blanks around them. -/
inductive IsNamed (IsName : List UInt8 → Prop) : List UInt8 → Prop where
  | mk {before name between after : List UInt8} (before_blank : IsBlanks before)
      (isName : IsName name) (between_blank : IsBlanks between) (after_blank : IsBlanks after) :
      IsNamed IsName (before ++ (name ++ (between ++ colon :: after)))

/-- What separates an item of an array or object from the one before it, if there is one. -/
inductive IsGap : Bool → List UInt8 → Prop where
  | first : IsGap true []
  | later {blanks : List UInt8} (all_blank : IsBlanks blanks) : IsGap false (blanks ++ [Text.comma])

/--
What an array or object holds, from its first item or from a later one on, and its closing byte. An
item is a value with a label, which stands before it in one of several ways.
-/
inductive Holds (closer : UInt8) (IsLead : ν → List UInt8 → Prop) :
    Bool → List (ν × List UInt8) → List UInt8 → Prop where
  | close (isFirst : Bool) {blanks : List UInt8} (all_blank : IsBlanks blanks) :
      Holds closer IsLead isFirst [] (blanks ++ [closer])
  | item {isFirst : Bool} {gap lead rest : List UInt8} {items : List (ν × List UInt8)}
      (label : ν) (value : List UInt8) (isGap : IsGap isFirst gap) (isLead : IsLead label lead)
      (holds : Holds closer IsLead false items rest) :
      Holds closer IsLead isFirst ((label, value) :: items) (gap ++ (lead ++ (value ++ rest)))

/-- The byte that opens the array or object. -/
def Frame.opener : Frame → UInt8
  | array => openBracket
  | object => openBrace

/-- What stands before a value of the array or object when it is passed over. -/
def Frame.IsLead : Frame → List UInt8 → Prop
  | array => IsBlanks
  | object => IsNamed IsLooseText

/-- A value of any kind. -/
inductive IsValue : List UInt8 → Prop where
  | null : IsValue (letterN :: wordNull)
  | yes : IsValue (letterT :: wordTrue)
  | no : IsValue (letterF :: wordFalse)
  | number {written : List UInt8} (isNumber : IsNumber written) : IsValue written
  | text {written : List UInt8} (isText : IsLooseText written) : IsValue written
  | nested (frame : Frame) {items : List (Unit × List UInt8)} {inner : List UInt8}
      (holds : Holds frame.closer (fun _ => frame.IsLead) true items inner)
      (all_values : ∀ item ∈ items, IsValue item.2) : IsValue (frame.opener :: inner)

/-- An array with its elements as they are written. -/
inductive IsArray : List (List UInt8) → List UInt8 → Prop where
  | mk {elements : List (List UInt8)} {inner : List UInt8}
      (holds : Holds closeBracket (fun _ => IsBlanks) true (elements.map (Prod.mk ())) inner)
      (all_values : ∀ element ∈ elements, IsValue element) :
      IsArray elements (openBracket :: inner)

/-- An object with the names of its members and their values as they are written. -/
inductive IsObject : List (String × List UInt8) → List UInt8 → Prop where
  | mk {members : List (String × List UInt8)} {inner : List UInt8}
      (holds : Holds closeBrace (fun name => IsNamed (IsText · name)) true members inner)
      (all_values : ∀ member ∈ members, IsValue member.2) : IsObject members (openBrace :: inner)

end Grammar

section Blanks

theorem IsBlanks.nil : IsBlanks [] := by
  simp [IsBlanks]

theorem IsBlanks.append {more : List UInt8} (all_blank : IsBlanks bytes)
    (more_blank : IsBlanks more) : IsBlanks (bytes ++ more) := by
  intro byte byte_mem
  rcases List.mem_append.1 byte_mem with first_mem | more_mem
  · exact all_blank byte first_mem
  · exact more_blank byte more_mem

theorem isBlanks_takeWhile (bytes : List UInt8) : IsBlanks (bytes.takeWhile isBlank) :=
  fun _ => List.mem_takeWhile_imp

/-- The blanks before the first other byte stand apart from it. -/
theorem exists_eq_append_of_skipBlanks (skipped_eq : skipBlanks bytes = rest) :
    ∃ blanks, bytes = blanks ++ rest ∧ IsBlanks blanks := by
  refine ⟨bytes.takeWhile isBlank, ?_, isBlanks_takeWhile bytes⟩
  rw [← skipped_eq]
  exact List.takeWhile_append_dropWhile.symm

theorem IsBlanks.skipBlanks_eq (all_blank : IsBlanks bytes) (rest : List UInt8) :
    skipBlanks (bytes ++ rest) = skipBlanks rest :=
  skipBlanks_append all_blank rest

theorem IsBlanks.endsNumber (all_blank : IsBlanks bytes) (ends : EndsNumber rest) :
    EndsNumber (bytes ++ rest) := by
  cases bytes with
  | nil => exact ends
  | cons byte bytes => exact endsNumber_of_isBlank (all_blank byte (by simp)) _

end Blanks

section Values

/-- A text that stands for characters has the form of one that is passed over. -/
theorem Spells.isLooseBody {body spelled : List UInt8} (spells : Spells body spelled) :
    IsLooseBody body := by
  induction spells with
  | nil => exact .nil
  | byte byte not_mark not_escape not_control _ ih =>
      exact .byte byte not_mark not_escape not_control ih
  | escape isEscape _ ih =>
      cases isEscape with
      | short letter short_eq => exact .escape (.short letter (by simp [short_eq])) ih
      | unit spells => exact .escape (.unit spells) ih
      | pair spells more_spells _ _ _ =>
          have others := IsLooseBody.escape (.unit more_spells) ih
          simpa using IsLooseBody.escape (.unit spells) others

theorem Spells.eq_of_notMem {spelled : List UInt8} (spells : Spells written spelled)
    (no_escape : backslash ∉ written) : spelled = written := by
  induction spells with
  | nil => rfl
  | byte byte _ _ _ _ ih => rw [ih (List.not_mem_of_not_mem_cons no_escape)]
  | escape => exact absurd List.mem_cons_self no_escape

/-- A text without escapes stands in its marks as it is. -/
theorem IsText.eq_of_notMem {text : String} (isText : IsText written text)
    (no_escape : backslash ∉ written) :
    written = Text.quotationMark :: (Text.bytesOf text ++ [Text.quotationMark]) := by
  rcases isText with ⟨spells⟩
  rw [spells.eq_of_notMem (by simp_all)]

theorem IsText.isLooseText {text : String} (isText : IsText written text) :
    IsLooseText written := by
  cases isText with
  | mk spells => exact .mk spells.isLooseBody

theorem IsNamed.mono {IsName IsOther : List UInt8 → Prop} {lead : List UInt8}
    (isNamed : IsNamed IsName lead) (weaken : ∀ name, IsName name → IsOther name) :
    IsNamed IsOther lead := by
  cases isNamed with
  | mk before_blank isName between_blank after_blank =>
      exact .mk before_blank (weaken _ isName) between_blank after_blank

theorem IsNamed.blanks_append {IsName : List UInt8 → Prop} {blanks lead : List UInt8}
    (all_blank : IsBlanks blanks) (isNamed : IsNamed IsName lead) :
    IsNamed IsName (blanks ++ lead) := by
  cases isNamed with
  | mk before_blank isName between_blank after_blank =>
      rw [← List.append_assoc]
      exact .mk (all_blank.append before_blank) isName between_blank after_blank

theorem IsNamed.append_blanks {IsName : List UInt8 → Prop} {blanks lead : List UInt8}
    (isNamed : IsNamed IsName lead) (all_blank : IsBlanks blanks) :
    IsNamed IsName (lead ++ blanks) := by
  cases isNamed with
  | mk before_blank isName between_blank after_blank =>
      have appended := IsNamed.mk before_blank isName between_blank (after_blank.append all_blank)
      simpa using appended

theorem Frame.IsLead.blanks_append {frame : Frame} {blanks lead : List UInt8}
    (all_blank : IsBlanks blanks) (isLead : frame.IsLead lead) : frame.IsLead (blanks ++ lead) := by
  cases frame with
  | array => exact IsBlanks.append all_blank isLead
  | object => exact IsNamed.blanks_append all_blank isLead

theorem Frame.IsLead.append_blanks {frame : Frame} {blanks lead : List UInt8}
    (isLead : frame.IsLead lead) (all_blank : IsBlanks blanks) : frame.IsLead (lead ++ blanks) := by
  cases frame with
  | array => exact IsBlanks.append isLead all_blank
  | object => exact IsNamed.append_blanks isLead all_blank

section Items

variable {closer : UInt8} {IsLead : ν → List UInt8 → Prop} {IsOther : μ → List UInt8 → Prop}
  {isFirst : Bool} {items : List (ν × List UInt8)}

theorem Holds.relabel (change : ν → μ) (holds : Holds closer IsLead isFirst items written)
    (weaken : ∀ label lead, IsLead label lead → IsOther (change label) lead) :
    Holds closer IsOther isFirst (items.map (Prod.map change id)) written := by
  induction holds with
  | close isFirst all_blank => exact .close isFirst all_blank
  | item label value isGap isLead _ ih => exact .item _ value isGap (weaken label _ isLead) ih

/-- What follows an item ends a number. -/
theorem Holds.endsNumber (holds : Holds closer IsLead false items written)
    (closes : EndsNumber (closer :: rest)) : EndsNumber (written ++ rest) := by
  cases holds with
  | close _ all_blank =>
      rw [List.append_assoc]
      exact all_blank.endsNumber closes
  | item _ _ isGap _ _ =>
      rcases isGap with _ | ⟨all_blank⟩
      simp only [List.append_assoc]
      exact all_blank.endsNumber (endsNumber_cons (by decide) _)

/-- What an array or object holds has each value and what stands before it somewhere in it. -/
theorem Holds.isInfix (holds : Holds closer IsLead isFirst items written) :
    ∀ item ∈ items, item.2 <:+: written ∧ ∃ lead, IsLead item.1 lead ∧ lead <:+: written := by
  induction holds with
  | close => simp
  | @item isFirst gap lead rest items label value isGap isLead _ ih =>
      refine List.forall_mem_cons.2 ⟨⟨⟨gap ++ lead, rest, by simp⟩, lead, isLead,
        ⟨gap, value ++ rest, by simp⟩⟩, ?_⟩
      have rest_isInfix : rest <:+: gap ++ (lead ++ (value ++ rest)) :=
        ⟨gap ++ lead ++ value, [], by simp⟩
      intro item item_mem
      rcases ih item item_mem with ⟨value_isInfix, other, isOther, other_isInfix⟩
      exact ⟨value_isInfix.trans rest_isInfix, other, isOther, other_isInfix.trans rest_isInfix⟩

end Items

theorem IsArray.isValue {elements : List (List UInt8)} (isArray : IsArray elements written) :
    IsValue written := by
  cases isArray with
  | mk holds all_values =>
      refine .nested .array holds ?_
      simpa using all_values

theorem IsObject.isValue {members : List (String × List UInt8)}
    (isObject : IsObject members written) : IsValue written := by
  cases isObject with
  | mk holds all_values =>
      have loosened : Holds closeBrace (fun _ => Frame.object.IsLead) true
          (members.map (Prod.map (fun _ => ()) id)) _ :=
        holds.relabel _ fun _ _ isNamed => isNamed.mono fun _ isText => isText.isLooseText
      refine .nested .object loosened ?_
      intro item item_mem
      rcases List.mem_map.1 item_mem with ⟨member, member_mem, rfl⟩
      exact all_values member member_mem

theorem IsObject.all_isValue {members : List (String × List UInt8)}
    (isObject : IsObject members written) : ∀ member ∈ members, IsValue member.2 := by
  cases isObject with
  | mk _ all_values => exact all_values

theorem IsArray.isInfix {elements : List (List UInt8)} (isArray : IsArray elements written) :
    ∀ element ∈ elements, element <:+: written := by
  rcases isArray with ⟨holds, -⟩
  intro element element_mem
  exact List.infix_cons (holds.isInfix ((), element) (List.mem_map_of_mem element_mem)).1

theorem IsObject.isInfix {members : List (String × List UInt8)}
    (isObject : IsObject members written) :
    ∀ member ∈ members, member.2 <:+: written := by
  rcases isObject with ⟨holds, -⟩
  intro member member_mem
  exact List.infix_cons (holds.isInfix member member_mem).1

/-- The names of the members of an object are somewhere in it, in one of their spellings. -/
theorem IsObject.exists_isText {members : List (String × List UInt8)}
    (isObject : IsObject members written) :
    ∀ member ∈ members, ∃ text, IsText text member.1 ∧ text <:+: written := by
  rcases isObject with ⟨holds, -⟩
  intro member member_mem
  rcases (holds.isInfix member member_mem).2 with ⟨lead, isNamed, lead_isInfix⟩
  rcases isNamed with ⟨-, isText, -, -⟩
  next before text between after =>
  have in_lead : text <:+: before ++ (text ++ (between ++ colon :: after)) :=
    ⟨before, between ++ colon :: after, by simp⟩
  exact ⟨text, isText, List.infix_cons (in_lead.trans lead_isInfix)⟩

/-- The bytes that announce a kind of value. -/
def Lead.Fits : Lead → UInt8 → Prop
  | null, byte => byte = letterN
  | yes, byte => byte = letterT
  | no, byte => byte = letterF
  | minus, byte => byte = Json.minus
  | digit, byte => isDigit byte
  | text, byte => byte = Text.quotationMark
  | array, byte => byte = openBracket
  | object, byte => byte = openBrace
  | nothing, _ => True

theorem fits_leadOf (byte : UInt8) : (leadOf byte).Fits byte := by
  rw [leadOf]
  split_ifs <;> trivial

/-- A value starts with a byte that announces it. -/
theorem IsValue.starts (isValue : IsValue written) :
    ∃ byte others, written = byte :: others ∧ leadOf byte ≠ .nothing := by
  cases isValue with
  | null => exact ⟨_, _, rfl, by decide⟩
  | yes => exact ⟨_, _, rfl, by decide⟩
  | no => exact ⟨_, _, rfl, by decide⟩
  | number isNumber =>
      cases isNumber with
      | positive isNumeral =>
          rcases isNumeral with ⟨⟨first_digit, -, -⟩, -, -⟩
          exact ⟨_, _, rfl, by simp [leadOf_eq_digit first_digit]⟩
      | negative _ => exact ⟨_, _, rfl, by decide⟩
  | text isText =>
      rcases isText with ⟨-⟩
      exact ⟨_, _, rfl, by decide⟩
  | nested frame _ _ => exact ⟨_, _, rfl, by cases frame <;> decide⟩

theorem IsValue.skipBlanks_eq (isValue : IsValue written) (rest : List UInt8) :
    skipBlanks (written ++ rest) = written ++ rest := by
  rcases isValue.starts with ⟨byte, others, rfl, announces⟩
  exact skipBlanks_cons (isBlank_of_leadOf announces)

end Values

end Json

end ScriptedFeed
