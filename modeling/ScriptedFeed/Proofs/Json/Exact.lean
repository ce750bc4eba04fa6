import ScriptedFeed.Proofs.Json.Skip

/-!
# Readers that read one form only

A reader is exact if there is a form such that it reads, with blanks before it and whatever comes
after it, what has the form, and succeeds on nothing else. The readers of texts, integers and
arrays are exact, and so is a reader that turns what an exact one has read into something else. A
text may be spelt in many ways, an integer in one only.
-/

namespace ScriptedFeed

namespace Json

variable {α β : Type} {bytes written rest : List UInt8}

/-- Something written is a value, and a reader reads it as this one whatever comes after it. -/
structure Accepts (reader : Reader α) (written : List UInt8) (value : α) : Prop where
  isValue : IsValue written
  reads : ∀ blanks rest, IsBlanks blanks → EndsNumber rest →
    reader (blanks ++ (written ++ rest)) = .ok (value, rest)

/-- A reader reads what means a value as that value, and nothing else. -/
structure ReadsExactly (reader : Reader α) (Means : List UInt8 → α → Prop) : Prop where
  accepts : ∀ {written value}, Means written value → Accepts reader written value
  exists_means : ∀ {bytes value rest}, reader bytes = .ok (value, rest) →
    ∃ blanks written, bytes = blanks ++ (written ++ rest) ∧ IsBlanks blanks ∧ Means written value

/-- A reader reads only what it would read in any place. -/
abbrev IsExact (reader : Reader α) : Prop :=
  ReadsExactly reader (Accepts reader)

section Exact

variable {reader : Reader α} {Means : List UInt8 → α → Prop} {value : α}

/-- A value has no blanks before it of its own. -/
theorem IsValue.eq_nil_of_append {blanks : List UInt8} (isValue : IsValue (blanks ++ written))
    (all_blank : IsBlanks blanks) : blanks = [] := by
  rcases isValue.starts with ⟨byte, others, written_eq, announces⟩
  rcases blanks with _ | ⟨first, blanks⟩
  · rfl
  · rw [List.cons_append, List.cons.injEq] at written_eq
    have first_blank := all_blank first List.mem_cons_self
    rw [written_eq.1, isBlank_of_leadOf announces] at first_blank
    cases first_blank

theorem ReadsExactly.accepts_iff (exact : ReadsExactly reader Means) :
    Accepts reader written value ↔ Means written value := by
  constructor
  · intro accepts
    have read := accepts.reads [] [] IsBlanks.nil endsNumber_nil
    rcases exact.exists_means read with ⟨blanks, found, written_eq, all_blank, means⟩
    rw [List.nil_append, List.append_nil, List.append_nil] at written_eq
    have isValue := accepts.isValue
    rw [written_eq] at isValue
    rw [written_eq, isValue.eq_nil_of_append all_blank]
    exact means
  · exact exact.accepts

theorem ReadsExactly.isExact (exact : ReadsExactly reader Means) : IsExact reader where
  accepts := id
  exists_means read := by
    rcases exact.exists_means read with ⟨blanks, written, bytes_eq, all_blank, means⟩
    exact ⟨blanks, written, bytes_eq, all_blank, exact.accepts means⟩

theorem ReadsExactly.congr {Other : List UInt8 → α → Prop} (exact : ReadsExactly reader Means)
    (iff : ∀ written value, Means written value ↔ Other written value) :
    ReadsExactly reader Other where
  accepts other := exact.accepts ((iff _ _).2 other)
  exists_means read := by
    rcases exact.exists_means read with ⟨blanks, written, bytes_eq, all_blank, means⟩
    exact ⟨blanks, written, bytes_eq, all_blank, (iff _ _).1 means⟩

/-- A reader that turns what it has read into something else. -/
theorem ReadsExactly.map (exact : ReadsExactly reader Means) (change : α → β) :
    ReadsExactly (fun bytes => do
      let (value, rest) ← reader bytes
      .ok (change value, rest)) fun written result => ∃ value, Means written value ∧
        change value = result where
  accepts := by
    rintro written _ ⟨value, means, rfl⟩
    have accepts := exact.accepts means
    refine ⟨accepts.isValue, fun blanks rest all_blank ends => ?_⟩
    rw [accepts.reads blanks rest all_blank ends]
    rfl
  exists_means read := by
    rw [bind_eq_ok_iff] at read
    rcases read with ⟨⟨value, last⟩, value_eq, ⟨⟩⟩
    rcases exact.exists_means value_eq with ⟨blanks, written, bytes_eq, all_blank, means⟩
    exact ⟨blanks, written, bytes_eq, all_blank, value, means, rfl⟩

/-- What a reader reads as it was written is accepted, if the reader passes over blanks. -/
theorem Reads.accepts {characters : List Char} (reads : Reads reader characters (.ok value))
    (skips : SkipsBlanks reader) (isValue : IsValue (Text.encodeUtf8 characters)) :
    Accepts reader (Text.encodeUtf8 characters) value := by
  refine ⟨isValue, fun blanks rest all_blank ends => ?_⟩
  have read := reads.reads rest ends
  rw [skips blanks all_blank]
  cases result_eq : reader (Text.encodeUtf8 characters ++ rest) with
  | error failure =>
      rw [result_eq] at read
      cases read
  | ok result =>
      rw [result_eq] at read
      cases read
      rfl

/-- A document holds what means a value, with blanks around it. -/
theorem ReadsExactly.readDocument_eq_ok_iff (exact : ReadsExactly reader Means)
    {document : List UInt8} :
    readDocument reader document = .ok value ↔
      ∃ before written after, document = before ++ (written ++ after) ∧ IsBlanks before ∧
        IsBlanks after ∧ Means written value := by
  rw [readDocument, mapError_eq_ok_iff, readToEnd, bind_eq_ok_iff]
  constructor
  · rintro ⟨⟨found, after⟩, read, ended⟩
    rcases exact.exists_means read with ⟨before, written, document_eq, before_blank, means⟩
    simp only at ended
    split at ended
    · next skipped_eq =>
      cases ended
      rcases exists_eq_append_of_skipBlanks skipped_eq with ⟨blanks, after_eq, all_blank⟩
      rw [List.append_nil] at after_eq
      exact ⟨before, written, after, document_eq, before_blank, after_eq ▸ all_blank, means⟩
    · cases ended
  · rintro ⟨before, written, after, rfl, before_blank, after_blank, means⟩
    have skipped_eq : skipBlanks after = [] := by
      rw [← List.append_nil after, after_blank.skipBlanks_eq]
      rfl
    have ends : EndsNumber after := by
      rw [← List.append_nil after]
      exact after_blank.endsNumber endsNumber_nil
    refine ⟨(value, after), (exact.accepts means).reads before after before_blank ends, ?_⟩
    simp only [skipped_eq]

end Exact

section Text

theorem readsExactly_readTextAs (wanted : String) : ReadsExactly (readTextAs wanted) IsText where
  accepts := by
    intro written text isText
    refine ⟨.text isText.isLooseText, fun blanks rest all_blank _ => ?_⟩
    rcases isText with ⟨spells⟩
    next body =>
    have lead_eq : leadOf Text.quotationMark = .text := rfl
    have read : readText (body ++ Text.quotationMark :: rest) = .ok (text, rest) :=
      readText_eq_ok_iff.2 ⟨body, rfl, spells⟩
    rw [readTextAs, all_blank.skipBlanks_eq, List.cons_append, List.append_assoc,
      List.singleton_append, skipBlanks_cons (by decide)]
    simp only [lead_eq, read]
  exists_means := by
    intro bytes text rest read
    rw [readTextAs] at read
    split at read
    · cases read
    next byte others skipped_eq =>
    rcases exists_eq_append_of_skipBlanks skipped_eq with ⟨blanks, rfl, all_blank⟩
    have fits := fits_leadOf byte
    split at read
    · next lead_eq =>
      rw [lead_eq] at fits
      rcases readText_eq_ok_iff.1 read with ⟨body, rfl, spells⟩
      refine ⟨blanks, _, ?_, all_blank, .mk spells⟩
      rw [fits]
      simp
    · cases read

end Text

section Integer

variable {digits : List Char} {value : Int}

theorem all_isDigit_encodeUtf8 (all_digits : ∀ digit ∈ digits, digit.isDigit) :
    ∀ byte ∈ Text.encodeUtf8 digits, isDigit byte := by
  intro byte byte_mem
  rcases List.mem_flatMap.1 byte_mem with ⟨digit, digit_mem, byte_mem⟩
  rw [utf8EncodeChar_of_isDigit (all_digits digit digit_mem), List.mem_singleton] at byte_mem
  rw [byte_mem]
  exact isDigit_ofNat_toNat (all_digits digit digit_mem)

theorem isNumeral_decimalDigits (number : Nat) :
    IsNumeral (Text.encodeUtf8 (decimalDigits number)) := by
  rcases exists_decimalDigits_eq number with ⟨first, others, digits_eq, all_digits, alone, -⟩
  rcases List.forall_mem_cons.1 all_digits with ⟨first_digit, others_digits⟩
  have isWhole : IsWhole (UInt8.ofNat first.toNat :: Text.encodeUtf8 others) := by
    refine .mk (isDigit_ofNat_toNat first_digit) (all_isDigit_encodeUtf8 others_digits) ?_
    intro isZero
    rw [alone (eq_zero_of_digitOf_eq_zero first_digit isZero), Text.encodeUtf8_nil]
  have isNumeral := IsNumeral.mk isWhole .absent .absent
  rw [digits_eq, encodeUtf8_digit first_digit]
  simpa using isNumeral

theorem isNumber_integerText (value : Int) : IsNumber (Text.encodeUtf8 (integerText value)) := by
  have isNumeral := isNumeral_decimalDigits value.natAbs
  rw [integerText]
  split_ifs
  · exact .negative isNumeral
  · exact .positive isNumeral

theorem exists_eq_append_of_readNumberAs {wanted : String}
    (read : readNumberAs wanted bytes = .ok (.integer value, rest)) :
    ∃ blanks, bytes = blanks ++ (Text.encodeUtf8 (integerText value) ++ rest) ∧
      IsBlanks blanks := by
  rw [readNumberAs] at read
  split at read
  · cases read
  next byte others skipped_eq =>
  rcases exists_eq_append_of_skipBlanks skipped_eq with ⟨blanks, rfl, all_blank⟩
  refine ⟨blanks, ?_, all_blank⟩
  congr 1
  have fits := fits_leadOf byte
  rw [integerText]
  split at read
  · next lead_eq =>
    rw [lead_eq] at fits
    rcases eq_append_of_readNumber read with ⟨others_eq, isNegative⟩
    rw [if_pos (isNegative.1 rfl), others_eq, fits]
    rfl
  · rcases eq_append_of_readNumber read with ⟨others_eq, isNegative⟩
    have not_negative : ¬ value < 0 := fun isBelow => by simpa using isNegative.2 isBelow
    rw [if_neg not_negative, others_eq]
  · cases read

/-- An integer that 64 bits hold is read from its digits, if it lies within the bounds. -/
theorem readsExactly_readIntegerAs (wanted : String) (least greatest : Int)
    (least_holds : -(maxSigned + 1) ≤ least) (greatest_holds : greatest ≤ maxUnsigned) :
    ReadsExactly (readIntegerAs wanted least greatest) fun written value =>
      (least ≤ value ∧ value ≤ greatest) ∧ written = Text.encodeUtf8 (integerText value) where
  accepts := by
    rintro _ value ⟨inRange, rfl⟩
    have holds : -(maxSigned + 1) ≤ value ∧ value ≤ maxUnsigned := by omega
    have reads := reads_integerText wanted least greatest holds
    rw [if_pos inRange] at reads
    exact reads.accepts ((skipsBlanks_readNumberAs wanted).bind _)
      (.number (isNumber_integerText value))
  exists_means := by
    intro bytes value rest read
    rw [readIntegerAs, bind_eq_ok_iff] at read
    rcases read with ⟨⟨number, last⟩, number_eq, read⟩
    simp only at read
    split at read
    · next found =>
      split_ifs at read with inRange
      cases read
      rcases exists_eq_append_of_readNumberAs number_eq with ⟨blanks, bytes_eq, all_blank⟩
      exact ⟨blanks, _, bytes_eq, all_blank, inRange, rfl⟩
    · cases read

/-- An unsigned integer of 64 bits is read from its digits. -/
theorem readsExactly_readUnsignedAs (wanted : String) :
    ReadsExactly (readUnsignedAs wanted) fun written number =>
      written = Text.encodeUtf8 (decimalDigits number.toNat) := by
  have exact := (readsExactly_readIntegerAs wanted 0 maxUnsigned (by decide) le_rfl).map
    fun value => UInt64.ofNat value.toNat
  refine exact.congr fun written number => ?_
  constructor
  · rintro ⟨value, ⟨inRange, rfl⟩, rfl⟩
    have toNat_eq : (UInt64.ofNat value.toNat).toNat = value.toNat := by
      rw [UInt64.toNat_ofNat', Nat.mod_eq_of_lt]
      simp only [maxUnsigned] at inRange
      omega
    rw [toNat_eq, integerText, if_neg (by omega)]
    congr 2
    omega
  · rintro rfl
    have number_lt := number.toNat_lt
    refine ⟨number.toNat, ⟨⟨by omega, ?_⟩, ?_⟩, by simp⟩
    · rw [maxUnsigned]
      omega
    · rw [integerText, if_neg (by omega), Int.natAbs_natCast]

end Integer

section Flag

/-- Yes and no are read from their words. -/
theorem readsExactly_readFlag :
    ReadsExactly readFlag fun written flag => written = Text.encodeUtf8 (writeFlag flag) where
  accepts := by
    rintro _ flag rfl
    refine (reads_writeFlag flag).accepts skipsBlanks_readFlag ?_
    cases flag with
    | true => exact .yes
    | false => exact .no
  exists_means := by
    intro bytes flag rest read
    rw [readFlag] at read
    split at read
    · cases read
    next byte others skipped_eq =>
    rcases exists_eq_append_of_skipBlanks skipped_eq with ⟨blanks, rfl, all_blank⟩
    have fits := fits_leadOf byte
    split at read
    · next lead_eq =>
      rw [lead_eq] at fits
      rw [bind_eq_ok_iff] at read
      rcases read with ⟨last, word_eq, ⟨⟩⟩
      refine ⟨blanks, _, ?_, all_blank, rfl⟩
      rw [fits, eq_append_of_readWord word_eq]
      rfl
    · next lead_eq =>
      rw [lead_eq] at fits
      rw [bind_eq_ok_iff] at read
      rcases read with ⟨last, word_eq, ⟨⟩⟩
      refine ⟨blanks, _, ?_, all_blank, rfl⟩
      rw [fits, eq_append_of_readWord word_eq]
      rfl
    · cases read

end Flag

section Array

variable {element : Reader α} {Means : List UInt8 → α → Prop} {isFirst : Bool}
  {items : List (Unit × List UInt8)} {values : List α}

/-- Elements that are each accepted are read up to the end of their array. -/
theorem Holds.exists_readElements_eq
    (holds : Holds closeBracket (fun _ => IsBlanks) isFirst items bytes)
    (all_accepted : List.Forall₂ (fun item => Accepts element item.2) items values)
    {fuel : List UInt8} (length_lt : items.length < fuel.length) (rest : List UInt8) :
    ∃ last, readElements element fuel isFirst (bytes ++ rest) = .ok (values, last) ∧
      endArray last = .ok rest := by
  induction holds generalizing values fuel with
  | @close isFirst blanks all_blank =>
      cases all_accepted
      rcases fuel with _ | ⟨_, fuel⟩
      · simp at length_lt
      have next_eq : Frame.array.nextItem? isFirst (blanks ++ closeBracket :: rest) = .ok none :=
        nextItem?_close .array isFirst all_blank rest
      refine ⟨blanks ++ closeBracket :: rest, ?_, endArray_close all_blank rest⟩
      rw [List.append_assoc, List.singleton_append, readElements, next_eq]
      rfl
  | @item isFirst gap lead tail items label written isGap lead_blank holds ih =>
      rcases all_accepted with _ | ⟨accepts, others_accepted⟩
      rcases fuel with _ | ⟨_, fuel⟩
      · simp at length_lt
      rcases ih others_accepted (Nat.lt_of_succ_lt_succ length_lt) with ⟨last, others_eq, ended⟩
      have ends : EndsNumber (tail ++ rest) :=
        holds.endsNumber (endsNumber_cons (by decide) rest)
      have value_eq := accepts.reads [] (tail ++ rest) IsBlanks.nil ends
      rw [List.nil_append] at value_eq
      refine ⟨last, ?_, ended⟩
      rw [List.append_assoc, List.append_assoc, List.append_assoc, readElements,
        isGap.nextItem?_array lead_blank accepts.isValue.starts, except_ok_bind]
      simp only [value_eq, except_ok_bind, others_eq]

/-- Elements are read only from an array that holds them. -/
theorem exists_holds_of_readElements (exact : ReadsExactly element Means) {fuel last : List UInt8}
    (read : readElements element fuel isFirst bytes = .ok (values, last))
    (ended : endArray last = .ok rest) :
    ∃ elements inner, bytes = inner ++ rest ∧
      Holds closeBracket (fun _ => IsBlanks) isFirst (elements.map (Prod.mk ())) inner ∧
      List.Forall₂ Means elements values := by
  induction fuel generalizing isFirst bytes values with
  | nil => cases read
  | cons _ fuel ih =>
      rw [readElements, bind_eq_ok_iff] at read
      rcases read with ⟨_ | next, next_eq, read⟩
      · cases read
        rcases exists_close_of_nextItem? next_eq with ⟨blanks, others, rfl, all_blank⟩
        cases (endArray_close all_blank others).symm.trans ended
        exact ⟨[], blanks ++ [closeBracket], by simp [Frame.closer], .close isFirst all_blank, .nil⟩
      · simp only [bind_eq_ok_iff, Prod.exists] at read
        rcases read with ⟨value, after, value_eq, others, _, others_eq, result_eq⟩
        cases result_eq
        rcases exists_isGap_of_nextItem? next_eq with ⟨gap, lead, rfl, isGap, lead_blank⟩
        rcases exact.exists_means value_eq with ⟨blanks, written, rfl, all_blank, means⟩
        rcases ih others_eq with ⟨elements, inner, rfl, holds, others_mean⟩
        refine ⟨written :: elements, _, ?_,
          .item () written isGap (lead_blank.append all_blank) holds, .cons means others_mean⟩
        simp [Frame.opening]

theorem Holds.length_lt {ν : Type} {closer : UInt8} {IsLead : ν → List UInt8 → Prop}
    {items : List (ν × List UInt8)} (holds : Holds closer IsLead isFirst items bytes)
    (all_values : ∀ item ∈ items, IsValue item.2) : items.length < bytes.length := by
  induction holds with
  | close _ _ => simp
  | @item isFirst gap lead tail items label written isGap isLead holds ih =>
      rcases List.forall_mem_cons.1 all_values with ⟨isValue, others_values⟩
      have others_lt := ih others_values
      rcases isValue.starts with ⟨byte, others, rfl, -⟩
      simp only [List.length_append, List.length_cons]
      omega

theorem ReadsExactly.all_isValue (exact : ReadsExactly element Means)
    {elements : List (List UInt8)} (all_mean : List.Forall₂ Means elements values) :
    ∀ element ∈ elements, IsValue element := by
  induction all_mean with
  | nil => simp
  | cons means _ ih => exact List.forall_mem_cons.2 ⟨(exact.accepts means).isValue, ih⟩

/-- An array is read from elements that mean its values. -/
theorem ReadsExactly.readArray (exact : ReadsExactly element Means) :
    ReadsExactly (readArray element) fun written values =>
      ∃ elements, IsArray elements written ∧ List.Forall₂ Means elements values where
  accepts := by
    rintro _ values ⟨elements, ⟨holds, all_values⟩, all_mean⟩
    next inner =>
    refine ⟨(IsArray.mk holds all_values).isValue, fun blanks rest all_blank _ => ?_⟩
    have all_accepted : List.Forall₂ (fun item => Accepts element item.2)
        (elements.map (Prod.mk ())) values := by
      rw [List.forall₂_map_left_iff]
      exact all_mean.imp fun _ _ => exact.accepts
    have length_lt := holds.length_lt (by simpa using all_values)
    have fuel_gt : (elements.map (Prod.mk ())).length < (inner ++ rest).length := by
      rw [List.length_append]
      omega
    rcases holds.exists_readElements_eq all_accepted fuel_gt rest with ⟨last, read, ended⟩
    have lead_eq : leadOf openBracket = .array := rfl
    rw [Json.readArray, all_blank.skipBlanks_eq, List.cons_append, skipBlanks_cons (by decide)]
    simp only [lead_eq, read, except_ok_bind, ended]
  exists_means := by
    intro bytes values rest read
    rw [Json.readArray] at read
    split at read
    · cases read
    next byte others skipped_eq =>
    rcases exists_eq_append_of_skipBlanks skipped_eq with ⟨blanks, rfl, all_blank⟩
    have fits := fits_leadOf byte
    split at read
    · next lead_eq =>
      rw [lead_eq] at fits
      simp only [bind_eq_ok_iff, Prod.exists] at read
      rcases read with ⟨found, last, read, after, ended, result_eq⟩
      cases result_eq
      rcases exists_holds_of_readElements exact read ended with
        ⟨elements, inner, rfl, holds, all_mean⟩
      refine ⟨blanks, openBracket :: inner, ?_, all_blank, elements,
        .mk holds (exact.all_isValue all_mean), all_mean⟩
      rw [fits, List.cons_append]
    · cases read

end Array

end Json

end ScriptedFeed
