import ScriptedFeed.Proofs.Json.Exact

/-!
# Records are read in two forms only

A record is read from an object whose members are gathered by their names, or from an array whose
elements are gathered in the order of the record's members. If the readers of the members are exact,
so is the reader of the record: the members that it does not know may be values of any kind, and
neither a repeated member nor a further element is let through.
-/

namespace ScriptedFeed

namespace Json

variable {draft value : Type} {shape : RecordShape draft value} {bytes written rest : List UInt8}
  {gathered last : draft} {isFirst : Bool}

/-- A member of an object is gathered, or the record does not know it and is left as it is. -/
inductive GathersOne (shape : RecordShape draft value) (name : String) (written : List UInt8)
    (gathered : draft) : draft → Prop where
  | known {next : draft} (member : Member draft) (found : shape.member? name = some member)
      (isNew : member.isGiven gathered = false)
      (accepts : Accepts (member.readInto gathered) written next) :
      GathersOne shape name written gathered next
  | unknown (not_found : shape.member? name = none) (isValue : IsValue written) :
      GathersOne shape name written gathered gathered

/-- Members of an object, gathered one after another. -/
inductive GathersNamed (shape : RecordShape draft value) :
    List (String × List UInt8) → draft → draft → Prop where
  | nil (gathered : draft) : GathersNamed shape [] gathered gathered
  | cons {name : String} {written : List UInt8} {members : List (String × List UInt8)}
      {gathered next last : draft} (gathersOne : GathersOne shape name written gathered next)
      (gathers : GathersNamed shape members next last) :
      GathersNamed shape ((name, written) :: members) gathered last

/-- Elements of an array, gathered in the order of the members, of which the last may be absent. -/
inductive GathersInOrder :
    List (Member draft) → List (List UInt8) → draft → draft → Prop where
  | nil (gathered : draft) : GathersInOrder [] [] gathered gathered
  | absent {member : Member draft} {members : List (Member draft)} {gathered last : draft}
      (isOptional : member.isOptional) (gathers : GathersInOrder members [] gathered last) :
      GathersInOrder (member :: members) [] gathered last
  | given {member : Member draft} {members : List (Member draft)} {written : List UInt8}
      {elements : List (List UInt8)} {gathered next last : draft}
      (accepts : Accepts (member.readInto gathered) written next)
      (gathers : GathersInOrder members elements next last) :
      GathersInOrder (member :: members) (written :: elements) gathered last

/-- A record in one of its two forms. -/
inductive RecordShape.Means (shape : RecordShape draft value) (written : List UInt8)
    (result : value) : Prop where
  | object {members : List (String × List UInt8)} {gathered : draft}
      (isObject : IsObject members written)
      (gathers : GathersNamed shape members shape.start gathered)
      (finished : shape.finish gathered = .ok result)
  | array {elements : List (List UInt8)} {gathered : draft} (isArray : IsArray elements written)
      (gathers : GathersInOrder shape.members elements shape.start gathered)
      (finished : shape.finish gathered = .ok result)

/-- Whatever has been gathered, the members of a record are read exactly. -/
def RecordShape.AllExact (shape : RecordShape draft value) : Prop :=
  ∀ member ∈ shape.members, ∀ gathered, IsExact (member.readInto gathered)

section Object

theorem GathersOne.isValue {name : String} {next : draft}
    (gathersOne : GathersOne shape name written gathered next) : IsValue written := by
  cases gathersOne with
  | known _ _ _ accepts => exact accepts.isValue
  | unknown _ isValue => exact isValue

theorem GathersNamed.all_isValue {members : List (String × List UInt8)}
    (gathers : GathersNamed shape members gathered last) :
    ∀ member ∈ members, IsValue member.2 := by
  induction gathers with
  | nil => simp
  | cons gathersOne _ ih => exact List.forall_mem_cons.2 ⟨gathersOne.isValue, ih⟩

/-- A member is read after its name, across the blanks around its colon. -/
theorem GathersOne.readMember_eq {name : String} {next : draft} {between after : List UInt8}
    (gathersOne : GathersOne shape name written gathered next) (between_blank : IsBlanks between)
    (after_blank : IsBlanks after) (ends : EndsNumber rest) :
    shape.readMember name gathered (between ++ colon :: (after ++ (written ++ rest))) =
      .ok (next, rest) := by
  cases gathersOne with
  | known member found isNew accepts =>
      simp only [RecordShape.readMember, found, isNew, Bool.false_eq_true, if_false,
        readColon_eq between_blank, except_ok_bind, accepts.reads after rest after_blank ends]
  | unknown not_found isValue =>
      simp only [RecordShape.readMember, not_found, readColon_eq between_blank, except_ok_bind,
        isValue.skipValue_eq after_blank ends, except_pure]

theorem exists_gathersOne_of_readMember (all_exact : shape.AllExact) {name : String} {next : draft}
    (read : shape.readMember name gathered bytes = .ok (next, rest)) :
    ∃ between after written, bytes = between ++ colon :: (after ++ (written ++ rest)) ∧
      IsBlanks between ∧ IsBlanks after ∧ GathersOne shape name written gathered next := by
  rw [RecordShape.readMember] at read
  split at read
  · next not_found =>
    simp only [bind_eq_ok_iff] at read
    rcases read with ⟨others, colon_eq, last, skipped, result_eq⟩
    cases result_eq
    rcases exists_isBlanks_of_readColon colon_eq with ⟨between, between_blank, rfl⟩
    rcases exists_isValue_of_skipValue skipped with ⟨after, written, rfl, after_blank, isValue⟩
    exact ⟨between, after, written, rfl, between_blank, after_blank, .unknown not_found isValue⟩
  · next member found =>
    split_ifs at read with isGiven
    rw [bind_eq_ok_iff] at read
    rcases read with ⟨others, colon_eq, read⟩
    rcases exists_isBlanks_of_readColon colon_eq with ⟨between, between_blank, rfl⟩
    have member_exact := all_exact member (List.mem_of_find?_eq_some found) gathered
    rcases member_exact.exists_means read with ⟨after, written, rfl, after_blank, accepts⟩
    have isNew : member.isGiven gathered = false := by simpa using isGiven
    exact ⟨between, after, written, rfl, between_blank, after_blank,
      .known member found isNew accepts⟩

/-- Members that are gathered by their names are read up to the end of their object. -/
theorem GathersNamed.exists_readMembers_eq {members : List (String × List UInt8)}
    (gathers : GathersNamed shape members gathered last)
    (holds : Holds closeBrace (fun name => IsNamed (IsText · name)) isFirst members bytes)
    {fuel : List UInt8} (length_lt : members.length < fuel.length) (rest : List UInt8) :
    ∃ after, shape.readMembers fuel isFirst gathered (bytes ++ rest) = .ok (last, after) ∧
      endObject after = .ok rest := by
  induction holds generalizing gathered fuel with
  | @close isFirst blanks all_blank =>
      cases gathers
      rcases fuel with _ | ⟨_, fuel⟩
      · simp at length_lt
      have next_eq : Frame.object.nextItem? isFirst (blanks ++ closeBrace :: rest) = .ok none :=
        nextItem?_close .object isFirst all_blank rest
      refine ⟨blanks ++ closeBrace :: rest, ?_, endObject_close all_blank rest⟩
      rw [List.append_assoc, List.singleton_append, RecordShape.readMembers, next_eq]
      rfl
  | @item isFirst gap lead tail items name written isGap isNamed holds ih =>
      rcases gathers with _ | ⟨gathersOne, others_gather⟩
      rcases fuel with _ | ⟨_, fuel⟩
      · simp at length_lt
      rcases ih others_gather (Nat.lt_of_succ_lt_succ length_lt) with ⟨last, others_eq, ended⟩
      rcases isNamed with ⟨before_blank, ⟨spells⟩, between_blank, after_blank⟩
      next before between after body =>
      have ends : EndsNumber (tail ++ rest) :=
        holds.endsNumber (endsNumber_cons (by decide) rest)
      have text_eq (more : List UInt8) :
          readText (body ++ Text.quotationMark :: more) = .ok (name, more) :=
        readText_eq_ok_iff.2 ⟨body, rfl, spells⟩
      refine ⟨last, ?_, ended⟩
      simp only [List.append_assoc, List.cons_append, List.nil_append]
      rw [RecordShape.readMembers, isGap.nextItem?_object before_blank, except_ok_bind]
      simp only [text_eq, except_ok_bind,
        gathersOne.readMember_eq between_blank after_blank ends, others_eq]

/-- Members are read only from an object that holds them. -/
theorem exists_holds_of_readMembers (all_exact : shape.AllExact) {fuel after : List UInt8}
    (read : shape.readMembers fuel isFirst gathered bytes = .ok (last, after))
    (ended : endObject after = .ok rest) :
    ∃ members inner, bytes = inner ++ rest ∧
      Holds closeBrace (fun name => IsNamed (IsText · name)) isFirst members inner ∧
      GathersNamed shape members gathered last := by
  induction fuel generalizing isFirst bytes gathered with
  | nil => cases read
  | cons _ fuel ih =>
      rw [RecordShape.readMembers, bind_eq_ok_iff] at read
      rcases read with ⟨_ | next, next_eq, read⟩
      · cases read
        rcases exists_close_of_nextItem? next_eq with ⟨blanks, others, rfl, all_blank⟩
        cases (endObject_close all_blank others).symm.trans ended
        exact ⟨[], blanks ++ [closeBrace], by simp [Frame.closer], .close isFirst all_blank, .nil _⟩
      · simp only [bind_eq_ok_iff, Prod.exists] at read
        rcases read with ⟨name, others, text_eq, next, more, member_eq, others_eq⟩
        rcases exists_isGap_of_nextItem? next_eq with ⟨gap, before, rfl, isGap, before_blank⟩
        rcases readText_eq_ok_iff.1 text_eq with ⟨body, rfl, spells⟩
        rcases exists_gathersOne_of_readMember all_exact member_eq with
          ⟨between, after, written, rfl, between_blank, after_blank, gathersOne⟩
        rcases ih others_eq with ⟨members, inner, rfl, holds, gathers⟩
        have isNamed : IsNamed (IsText · name) _ :=
          .mk before_blank (.mk spells) between_blank after_blank
        refine ⟨(name, written) :: members, _, ?_, .item name written isGap isNamed holds,
          .cons gathersOne gathers⟩
        simp [Frame.opening]

/-- The steps by which a member of an object is read, up to its value and past it. -/
theorem IsNamed.exists_steps {name : String} {gap lead : List UInt8} (isGap : IsGap isFirst gap)
    (isNamed : IsNamed (IsText · name) lead) (isValue : IsValue written)
    (ends : EndsNumber rest) :
    ∃ next between after,
      Frame.object.nextItem? isFirst (gap ++ (lead ++ (written ++ rest))) = .ok (some next) ∧
      readText next = .ok (name, between) ∧ readColon between = .ok after ∧
      skipBlanks after = written ++ rest ∧ skipValue after = .ok rest := by
  rcases isNamed with ⟨before_blank, ⟨spells⟩, between_blank, after_blank⟩
  simp only [List.append_assoc, List.cons_append, List.nil_append]
  exact ⟨_, _, _, isGap.nextItem?_object before_blank _, readText_eq_ok_iff.2 ⟨_, rfl, spells⟩,
    readColon_eq between_blank _, by rw [after_blank.skipBlanks_eq, isValue.skipBlanks_eq],
    isValue.skipValue_eq after_blank ends⟩

/-- What an object holds determines its members, whatever comes after it. -/
theorem Holds.members_eq {members others : List (String × List UInt8)} {after : List UInt8}
    (holds : Holds closeBrace (fun name => IsNamed (IsText · name)) isFirst members bytes)
    (other_holds : Holds closeBrace (fun name => IsNamed (IsText · name)) isFirst others written)
    (all_values : ∀ member ∈ members, IsValue member.2)
    (others_values : ∀ member ∈ others, IsValue member.2)
    (same : bytes ++ rest = written ++ after) : members = others := by
  induction holds generalizing others written with
  | @close isFirst blanks all_blank =>
      have next_eq : Frame.object.nextItem? isFirst (blanks ++ closeBrace :: rest) = .ok none :=
        nextItem?_close .object isFirst all_blank rest
      rw [← List.singleton_append, ← List.append_assoc, same] at next_eq
      rcases other_holds with _ | @⟨_, gap, lead, tail, items, name, value, isGap, isNamed, holds⟩
      · rfl
      · rcases List.forall_mem_cons.1 others_values with ⟨isValue, -⟩
        have ends : EndsNumber (tail ++ after) := holds.endsNumber (endsNumber_cons (by decide) _)
        rcases isNamed.exists_steps isGap isValue ends with ⟨next, _, _, other_eq, -⟩
        simp only [List.append_assoc] at next_eq
        rw [next_eq] at other_eq
        cases other_eq
  | @item isFirst gap lead tail items name value isGap isNamed holds ih =>
      rcases List.forall_mem_cons.1 all_values with ⟨isValue, items_values⟩
      have ends : EndsNumber (tail ++ rest) := holds.endsNumber (endsNumber_cons (by decide) _)
      rcases isNamed.exists_steps isGap isValue ends with
        ⟨next, between, last, next_eq, text_eq, colon_eq, value_eq, skip_eq⟩
      simp only [List.append_assoc] at same
      rw [same] at next_eq
      rcases other_holds with @⟨_, _, all_blank⟩ |
        @⟨_, _, _, other_tail, _, _, other, other_gap, other_named, other_holds⟩
      · rw [List.append_assoc, List.singleton_append] at next_eq
        cases (nextItem?_close .object isFirst all_blank after).symm.trans next_eq
      · rcases List.forall_mem_cons.1 others_values with ⟨other_isValue, items_isValue⟩
        have other_ends : EndsNumber (other_tail ++ after) :=
          other_holds.endsNumber (endsNumber_cons (by decide) _)
        rcases other_named.exists_steps other_gap other_isValue other_ends with
          ⟨_, _, _, other_next_eq, other_text_eq, other_colon_eq, other_value_eq, other_skip_eq⟩
        simp only [List.append_assoc] at next_eq
        cases next_eq.symm.trans other_next_eq
        cases text_eq.symm.trans other_text_eq
        cases colon_eq.symm.trans other_colon_eq
        have tail_eq := Except.ok.inj (skip_eq.symm.trans other_skip_eq)
        rw [← tail_eq] at other_value_eq
        have written_eq : value = other :=
          List.append_cancel_right (value_eq.symm.trans other_value_eq)
        rw [written_eq, ih other_holds items_values items_isValue tail_eq]

/-- An object has no other members, wherever it is taken to end. -/
theorem IsObject.members_eq {members others : List (String × List UInt8)}
    {other after : List UInt8} (isObject : IsObject members written)
    (other_isObject : IsObject others other) (same : written ++ rest = other ++ after) :
    members = others := by
  rcases isObject with ⟨holds, all_values⟩
  rcases other_isObject with ⟨other_holds, others_values⟩
  rw [List.cons_append, List.cons_append, List.cons.injEq] at same
  exact holds.members_eq other_holds all_values others_values same.2

end Object

section Array

variable {members : List (Member draft)} {position : Nat}

theorem GathersInOrder.all_isValue {elements : List (List UInt8)}
    (gathers : GathersInOrder members elements gathered last) :
    ∀ element ∈ elements, IsValue element := by
  induction gathers with
  | nil => simp
  | absent => simp
  | given accepts _ ih => exact List.forall_mem_cons.2 ⟨accepts.isValue, ih⟩

/-- Elements that are gathered in order are read up to the end of their array. -/
theorem GathersInOrder.exists_readPositions_eq {elements : List (List UInt8)}
    (gathers : GathersInOrder members elements gathered last) (shape : RecordShape draft value)
    (position : Nat)
    (holds : Holds closeBracket (fun _ => IsBlanks) (decide (position = 0))
      (elements.map (Prod.mk ())) bytes) (rest : List UInt8) :
    ∃ after, shape.readPositions position members gathered (bytes ++ rest) = .ok (last, after) ∧
      endArray after = .ok rest := by
  induction gathers generalizing position bytes with
  | nil gathered =>
      rcases holds with ⟨_, all_blank⟩
      refine ⟨_, rfl, ?_⟩
      rw [List.append_assoc]
      exact endArray_close all_blank rest
  | absent isOptional _ ih =>
      rcases holds with @⟨_, blanks, all_blank⟩
      rcases ih (position + 1) (.close _ all_blank) with ⟨after, others_eq, ended⟩
      refine ⟨after, ?_, ended⟩
      have next_eq (isFirst : Bool) :
          Frame.array.nextItem? isFirst (blanks ++ closeBracket :: rest) = .ok none :=
        nextItem?_close .array isFirst all_blank rest
      rw [List.append_assoc, List.singleton_append] at others_eq ⊢
      rw [RecordShape.readPositions, next_eq, except_ok_bind]
      simp only [isOptional, if_true, others_eq]
  | @given member members written elements gathered next last accepts _ ih =>
      rcases holds with _ | @⟨_, gap, lead, tail, _, _, _, isGap, lead_blank, holds⟩
      rcases ih (position + 1) holds with ⟨after, others_eq, ended⟩
      have ends : EndsNumber (tail ++ rest) :=
        holds.endsNumber (endsNumber_cons (by decide) rest)
      have value_eq := accepts.reads [] (tail ++ rest) IsBlanks.nil ends
      rw [List.nil_append] at value_eq
      refine ⟨after, ?_, ended⟩
      rw [List.append_assoc, List.append_assoc, List.append_assoc, RecordShape.readPositions,
        isGap.nextItem?_array lead_blank accepts.isValue.starts, except_ok_bind]
      simp only [value_eq, except_ok_bind, others_eq]

/-- Elements are read only from an array that holds them, and no more than there are members. -/
theorem exists_holds_of_readPositions
    (all_exact : ∀ member ∈ members, ∀ gathered, IsExact (member.readInto gathered))
    {after : List UInt8}
    (read : shape.readPositions position members gathered bytes = .ok (last, after))
    (ended : endArray after = .ok rest) :
    ∃ elements inner, bytes = inner ++ rest ∧
      Holds closeBracket (fun _ => IsBlanks) (decide (position = 0)) (elements.map (Prod.mk ()))
        inner ∧
      GathersInOrder members elements gathered last := by
  induction members generalizing position gathered bytes with
  | nil =>
      cases read
      rcases exists_close_of_endArray ended with ⟨blanks, rfl, all_blank⟩
      exact ⟨[], blanks ++ [closeBracket], by simp, .close _ all_blank, .nil _⟩
  | cons member members ih =>
      rcases List.forall_mem_cons.1 all_exact with ⟨member_exact, others_exact⟩
      rw [RecordShape.readPositions, bind_eq_ok_iff] at read
      rcases read with ⟨_ | next, next_eq, read⟩
      · simp only at read
        split_ifs at read with isOptional
        · rcases ih others_exact read with ⟨elements, inner, rfl, holds, gathers⟩
          rcases exists_close_of_nextItem? next_eq with ⟨blanks, others, bytes_eq, all_blank⟩
          -- At the end of the array no later member can be given either.
          rcases elements with _ | ⟨written, elements⟩
          · rcases holds with ⟨_, inner_blank⟩
            exact ⟨[], _, rfl, .close _ inner_blank, .absent isOptional gathers⟩
          · rcases holds with _ | ⟨_, _, _ | ⟨gap_blank⟩, _, _⟩
            have heads := congrArg skipBlanks bytes_eq
            rw [all_blank.skipBlanks_eq, List.append_assoc, List.append_assoc,
              gap_blank.skipBlanks_eq, List.singleton_append, skipBlanks_cons (by decide),
              skipBlanks_cons (by decide), List.cons.injEq] at heads
            exact absurd heads.1 (by decide)
        · rw [bind_eq_ok_iff] at read
          rcases read with ⟨_, _, read⟩
          cases read
      · simp only [bind_eq_ok_iff, Prod.exists] at read
        rcases read with ⟨next, others, value_eq, others_eq⟩
        rcases exists_isGap_of_nextItem? next_eq with ⟨gap, lead, rfl, isGap, lead_blank⟩
        rcases (member_exact gathered).exists_means value_eq with
          ⟨blanks, written, rfl, all_blank, accepts⟩
        rcases ih others_exact others_eq with ⟨elements, inner, rfl, holds, gathers⟩
        refine ⟨written :: elements, _, ?_,
          .item () written isGap (lead_blank.append all_blank) holds, .given accepts gathers⟩
        simp [Frame.opening]

end Array

section Forms

variable {result : value}

theorem finishAt_eq_ok_iff {others : List UInt8} :
    shape.finishAt gathered others = .ok (result, rest) ↔
      shape.finish gathered = .ok result ∧ others = rest := by
  rw [RecordShape.finishAt]
  cases shape.finish gathered <;> simp

theorem GathersNamed.readFromObject_eq {members : List (String × List UInt8)}
    (gathers : GathersNamed shape members shape.start gathered)
    (holds : Holds closeBrace (fun name => IsNamed (IsText · name)) true members bytes)
    (finished : shape.finish gathered = .ok result) (rest : List UInt8) :
    shape.readFromObject (bytes ++ rest) = .ok (result, rest) := by
  have length_lt := holds.length_lt gathers.all_isValue
  have fuel_gt : members.length < (bytes ++ rest).length := by
    rw [List.length_append]
    omega
  rcases gathers.exists_readMembers_eq holds fuel_gt rest with ⟨after, read, ended⟩
  simp only [RecordShape.readFromObject, read, except_ok_bind, ended]
  exact finishAt_eq_ok_iff.2 ⟨finished, rfl⟩

theorem exists_gathersNamed_of_readFromObject (all_exact : shape.AllExact)
    (read : shape.readFromObject bytes = .ok (result, rest)) :
    ∃ members inner gathered, bytes = inner ++ rest ∧
      Holds closeBrace (fun name => IsNamed (IsText · name)) true members inner ∧
      GathersNamed shape members shape.start gathered ∧ shape.finish gathered = .ok result := by
  simp only [RecordShape.readFromObject, bind_eq_ok_iff, Prod.exists] at read
  rcases read with ⟨gathered, after, read, others, ended, finish_eq⟩
  rcases finishAt_eq_ok_iff.1 finish_eq with ⟨finished, rfl⟩
  rcases exists_holds_of_readMembers all_exact read ended with
    ⟨members, inner, bytes_eq, holds, gathers⟩
  exact ⟨members, inner, gathered, bytes_eq, holds, gathers, finished⟩

theorem GathersInOrder.readFromArray_eq {elements : List (List UInt8)}
    (gathers : GathersInOrder shape.members elements shape.start gathered)
    (holds : Holds closeBracket (fun _ => IsBlanks) true (elements.map (Prod.mk ())) bytes)
    (finished : shape.finish gathered = .ok result) (rest : List UInt8) :
    shape.readFromArray (bytes ++ rest) = .ok (result, rest) := by
  rcases gathers.exists_readPositions_eq shape 0 holds rest with ⟨after, read, ended⟩
  simp only [RecordShape.readFromArray, read, except_ok_bind, ended]
  exact finishAt_eq_ok_iff.2 ⟨finished, rfl⟩

theorem exists_gathersInOrder_of_readFromArray (all_exact : shape.AllExact)
    (read : shape.readFromArray bytes = .ok (result, rest)) :
    ∃ elements inner gathered, bytes = inner ++ rest ∧
      Holds closeBracket (fun _ => IsBlanks) true (elements.map (Prod.mk ())) inner ∧
      GathersInOrder shape.members elements shape.start gathered ∧
      shape.finish gathered = .ok result := by
  simp only [RecordShape.readFromArray, bind_eq_ok_iff, Prod.exists] at read
  rcases read with ⟨gathered, after, read, others, ended, finish_eq⟩
  rcases finishAt_eq_ok_iff.1 finish_eq with ⟨finished, rfl⟩
  rcases exists_holds_of_readPositions all_exact read ended with
    ⟨elements, inner, bytes_eq, holds, gathers⟩
  exact ⟨elements, inner, gathered, bytes_eq, holds, gathers, finished⟩

end Forms

/-- A record whose members are read exactly is read in its two forms, and in no other. -/
theorem RecordShape.AllExact.readsExactly_read (all_exact : shape.AllExact) :
    ReadsExactly shape.read shape.Means where
  accepts := by
    intro written result means
    cases means with
    | object isObject gathers finished =>
        refine ⟨isObject.isValue, fun blanks rest all_blank _ => ?_⟩
        rcases isObject with ⟨holds, -⟩
        have lead_eq : leadOf openBrace = .object := rfl
        rw [RecordShape.read, all_blank.skipBlanks_eq, List.cons_append,
          skipBlanks_cons (by decide)]
        simp only [lead_eq]
        exact gathers.readFromObject_eq holds finished rest
    | array isArray gathers finished =>
        refine ⟨isArray.isValue, fun blanks rest all_blank _ => ?_⟩
        rcases isArray with ⟨holds, -⟩
        have lead_eq : leadOf openBracket = .array := rfl
        rw [RecordShape.read, all_blank.skipBlanks_eq, List.cons_append,
          skipBlanks_cons (by decide)]
        simp only [lead_eq]
        exact gathers.readFromArray_eq holds finished rest
  exists_means := by
    intro bytes result rest read
    rw [RecordShape.read] at read
    split at read
    · cases read
    next byte others skipped_eq =>
    rcases exists_eq_append_of_skipBlanks skipped_eq with ⟨blanks, rfl, all_blank⟩
    have fits := fits_leadOf byte
    split at read
    · next lead_eq =>
      rw [lead_eq] at fits
      rcases exists_gathersInOrder_of_readFromArray all_exact read with
        ⟨elements, inner, gathered, rfl, holds, gathers, finished⟩
      refine ⟨blanks, openBracket :: inner, ?_, all_blank,
        .array (.mk holds gathers.all_isValue) gathers finished⟩
      rw [fits, List.cons_append]
    · next lead_eq =>
      rw [lead_eq] at fits
      rcases exists_gathersNamed_of_readFromObject all_exact read with
        ⟨members, inner, gathered, rfl, holds, gathers, finished⟩
      refine ⟨blanks, openBrace :: inner, ?_, all_blank,
        .object (.mk holds gathers.all_isValue) gathers finished⟩
      rw [fits, List.cons_append]
    · cases read

end Json

end ScriptedFeed
