import ScriptedFeed.Json.Reader
import ScriptedFeed.Proofs.Json.Number
import ScriptedFeed.Proofs.Json.Text

/-!
# What is written is read with an outcome

A reader reads something written with an outcome if it does so whatever comes after, as long as that
does not continue a number: the outcome is a value, after which reading goes on behind what was
written, or a fault. What is written starts with a byte that announces a value, so no blank before
it and no end of an array can be mistaken for it. Texts are read as themselves; integers that 64
bits hold are read where they lie within the bounds, and are wrong values elsewhere.
-/

namespace ScriptedFeed

namespace Json

variable {α β : Type}

/-- Something written starts with a byte that announces a value. -/
def StartsValue (written : List Char) : Prop :=
  ∃ byte bytes, Text.encodeUtf8 written = byte :: bytes ∧ leadOf byte ≠ .nothing

/-- Something written is read with an outcome, and nothing that comes after it is touched. -/
structure Reads (reader : Reader α) (written : List Char) (outcome : Except Fault α) : Prop where
  starts : StartsValue written
  reads : ∀ rest, EndsNumber rest →
    (reader (Text.encodeUtf8 written ++ rest)).mapError Failure.fault =
      outcome.map fun value => (value, rest)

section Bytes

variable {rest : List UInt8} {byte : UInt8}

theorem endsNumber_nil : EndsNumber [] := by
  simp [EndsNumber]

theorem endsNumber_cons
    (ends : Json.isDigit byte = false ∧ byte ≠ point ∧ isExponentMark byte = false)
    (rest : List UInt8) : EndsNumber (byte :: rest) := by
  rintro _ ⟨⟩
  exact ends

theorem endsNumber_of_isBlank (blank : isBlank byte) (rest : List UInt8) :
    EndsNumber (byte :: rest) := by
  simp only [isBlank, Bool.or_eq_true, decide_eq_true_eq] at blank
  apply endsNumber_cons
  rcases blank with ((rfl | rfl) | rfl) | rfl <;> decide

theorem skipBlanks_append {blanks : List UInt8} (all_blank : ∀ byte ∈ blanks, isBlank byte)
    (rest : List UInt8) : skipBlanks (blanks ++ rest) = skipBlanks rest :=
  List.dropWhile_append_of_pos all_blank

theorem isBlank_of_leadOf (announces : leadOf byte ≠ .nothing) : isBlank byte = false := by
  rw [Bool.eq_false_iff]
  intro isBlank
  simp only [Json.isBlank, Bool.or_eq_true, decide_eq_true_eq] at isBlank
  apply announces
  rcases isBlank with ((rfl | rfl) | rfl) | rfl <;> rfl

theorem skipBlanks_cons (not_blank : isBlank byte = false) :
    skipBlanks (byte :: rest) = byte :: rest := by
  rw [skipBlanks, List.dropWhile_cons_of_neg (by simp [not_blank])]

end Bytes

section Outcome

variable {reader : Reader α} {written : List Char} {outcome : Except Fault α}

theorem mapError_bind (result : Except Failure α) (next : α → Except Failure β) :
    (result >>= next).mapError Failure.fault =
      result.mapError Failure.fault >>= fun value => (next value).mapError Failure.fault := by
  cases result <;> rfl

theorem bind_map_pair {rest : List UInt8} (outcome : Except Fault α)
    (next : α × List UInt8 → Except Fault β) :
    ((outcome.map fun value => (value, rest)) >>= next) =
      outcome >>= fun value => next (value, rest) := by
  cases outcome <;> rfl

theorem Reads.mapError_bind (reads : Reads reader written outcome) {rest : List UInt8}
    (ends : EndsNumber rest) (next : α × List UInt8 → Except Failure β) :
    (reader (Text.encodeUtf8 written ++ rest) >>= next).mapError Failure.fault =
      outcome >>= fun value => (next (value, rest)).mapError Failure.fault := by
  rw [Json.mapError_bind, reads.reads rest ends, bind_map_pair]

/-- A reader that turns what it has read into something else does so with the outcome. -/
theorem Reads.map (reads : Reads reader written outcome) (change : α → β) :
    Reads (fun bytes => do
      let (value, rest) ← reader bytes
      .ok (change value, rest)) written (outcome.map change) where
  starts := reads.starts
  reads rest ends := by
    rw [reads.mapError_bind ends]
    cases outcome <;> rfl

/-- A document that holds something written and nothing else. -/
theorem Reads.readDocument_eq (reads : Reads reader written outcome) :
    (readDocument reader (Text.encodeUtf8 written)).mapError Error.fault = outcome := by
  have located : (readDocument reader (Text.encodeUtf8 written)).mapError Error.fault =
      (readToEnd reader (Text.encodeUtf8 written)).mapError Failure.fault := by
    rw [readDocument]
    cases readToEnd reader (Text.encodeUtf8 written) <;> rfl
  rw [located, readToEnd, ← List.append_nil (Text.encodeUtf8 written),
    reads.mapError_bind endsNumber_nil]
  cases outcome <;> rfl

end Outcome

section Text

theorem encodeUtf8_writeText (text : String) : Text.encodeUtf8 (writeText text) =
    Text.quotationMark :: Text.encodeUtf8 (text.toList.flatMap writeChar) ++
      [Text.quotationMark] := by
  rw [writeText, List.cons_append, Text.encodeUtf8_cons_of_lt (by decide), Text.encodeUtf8_append]
  rfl

theorem startsValue_writeText (text : String) : StartsValue (writeText text) :=
  ⟨Text.quotationMark, _, encodeUtf8_writeText text, by decide⟩

theorem reads_writeText (wanted text : String) :
    Reads (readTextAs wanted) (writeText text) (.ok text) where
  starts := startsValue_writeText text
  reads rest _ := by
    rw [encodeUtf8_writeText, List.append_assoc, List.cons_append, List.singleton_append,
      readTextAs, skipBlanks_cons (by decide)]
    have lead_eq : leadOf Text.quotationMark = .text := rfl
    simp only [lead_eq, readText_flatMap_writeChar]
    rfl

theorem reads_readChoice {choices : List (String × α)} {word : String} {value : α}
    (found : choices.lookup word = some value) :
    Reads (readChoice choices) (writeText word) (.ok value) where
  starts := startsValue_writeText word
  reads rest ends := by
    have reads := reads_writeText "variant identifier" word
    have lead_eq : leadOf Text.quotationMark = .text := rfl
    have read : ((readChoiceWord choices) (Text.encodeUtf8 (writeText word) ++ rest)).mapError
        Failure.fault = .ok (value, rest) := by
      rw [readChoiceWord, reads.mapError_bind ends]
      simp only [except_ok_bind, found]
      rfl
    rw [encodeUtf8_writeText, List.append_assoc, List.cons_append] at read ⊢
    rw [readChoice, skipBlanks_cons (by decide)]
    simp only [lead_eq, read]
    rfl

end Text

section Integer

variable {value : Int}

theorem leadOf_eq_digit {byte : UInt8} (isDigit : Json.isDigit byte) : leadOf byte = .digit := by
  have differs (other : UInt8) (not_digit : Json.isDigit other = false) : byte ≠ other := by
    rintro rfl
    simp [isDigit] at not_digit
  simp [leadOf, isDigit, differs letterN rfl, differs letterT rfl, differs letterF rfl,
    differs minus rfl]

theorem leadOf_of_isDigit {digit : Char} (isDigit : digit.isDigit) :
    leadOf (UInt8.ofNat digit.toNat) = .digit :=
  leadOf_eq_digit (isDigit_ofNat_toNat isDigit)

theorem readNumberAs_minus (wanted : String) (rest : List UInt8) :
    readNumberAs wanted (minus :: rest) = readNumber true rest := by
  have lead_eq : leadOf minus = .minus := rfl
  rw [readNumberAs, skipBlanks_cons (by decide)]
  simp only [lead_eq]

theorem readNumberAs_digit (wanted : String) {first : UInt8} (first_digit : isDigit first)
    (rest : List UInt8) :
    readNumberAs wanted (first :: rest) = readNumber false (first :: rest) := by
  have lead_eq := leadOf_eq_digit first_digit
  have announces : leadOf first ≠ .nothing := by simp [lead_eq]
  rw [readNumberAs, skipBlanks_cons (isBlank_of_leadOf announces)]
  simp only [lead_eq]

/-- A number is read from its digits, with a minus before them if it is negative. -/
theorem reads_readNumberAs_of_readNumber (wanted : String) (negative : Bool) {first : Char}
    {others : List Char} {number : Number} (first_digit : first.isDigit)
    (digits_read : ∀ rest, EndsNumber rest →
      readNumber negative (Text.encodeUtf8 (first :: others) ++ rest) = .ok (number, rest)) :
    Reads (readNumberAs wanted)
      (if negative then '-' :: first :: others else first :: others) (.ok number) := by
  cases negative with
  | true =>
      have written_eq : Text.encodeUtf8 ('-' :: first :: others) =
          minus :: Text.encodeUtf8 (first :: others) := rfl
      refine ⟨⟨minus, _, written_eq, by decide⟩, ?_⟩
      intro rest ends
      rw [if_pos rfl, written_eq, List.cons_append, readNumberAs_minus, digits_read rest ends]
      rfl
  | false =>
      have written_eq := encodeUtf8_digit first_digit others
      refine ⟨⟨_, _, written_eq, by simp [leadOf_of_isDigit first_digit]⟩, ?_⟩
      intro rest ends
      have read := digits_read rest ends
      rw [if_neg (by decide)]
      rw [written_eq, List.cons_append] at read ⊢
      rw [readNumberAs_digit wanted (isDigit_ofNat_toNat first_digit), read]
      rfl

/-- The value of an integer that 64 bits hold, in one of the two ways. -/
theorem reads_readNumberAs (wanted : String)
    (holds : -(maxSigned + 1) ≤ value ∧ value ≤ maxUnsigned) :
    Reads (readNumberAs wanted) (integerText value) (.ok (.integer value)) := by
  rcases exists_decimalDigits_eq_cons value.natAbs with ⟨first, others, digits_eq⟩
  have first_digit : first.isDigit :=
    isDigit_of_mem_decimalDigits (digits_eq ▸ List.mem_cons_self)
  have text_eq : integerText value =
      if decide (value < 0) then '-' :: first :: others else first :: others := by
    simp only [integerText, digits_eq, decide_eq_true_eq]
  have fits : value.natAbs ≤ maxUnsigned := by
    rw [maxSigned, maxUnsigned] at holds
    rw [maxUnsigned]
    omega
  rw [text_eq]
  apply reads_readNumberAs_of_readNumber wanted _ first_digit
  intro rest ends
  rw [← digits_eq, readNumber_decimalDigits _ fits ends, wholeNumber]
  by_cases isNegative : value < 0
  · have holds_sign : 0 < value.natAbs ∧ value.natAbs ≤ maxSigned + 1 := by omega
    have value_eq : -(value.natAbs : Int) = value := by omega
    simp only [isNegative, decide_true, Bool.not_true, Bool.false_eq_true, if_false, holds_sign,
      and_self, if_true, value_eq]
  · have value_eq : (value.natAbs : Int) = value := by omega
    simp only [isNegative, decide_false, Bool.not_false, if_true, value_eq]

/-- An integer is read where its type is wanted, and refused as a value outside the bounds. -/
theorem reads_integerText (wanted : String) (least greatest : Int)
    (holds : -(maxSigned + 1) ≤ value ∧ value ≤ maxUnsigned) :
    Reads (readIntegerAs wanted least greatest) (integerText value)
      (if least ≤ value ∧ value ≤ greatest then .ok value
      else .error (.wrongValue (.integer value) wanted)) where
  starts := (reads_readNumberAs wanted holds).starts
  reads rest ends := by
    rw [readIntegerAs, (reads_readNumberAs wanted holds).mapError_bind ends]
    simp only [bind, Except.bind]
    split_ifs <;> rfl

/-- An unsigned integer of 64 bits is read from its digits. -/
theorem reads_readUnsignedAs (wanted : String) (number : UInt64) :
    Reads (readUnsignedAs wanted) (decimalDigits number.toNat) (.ok number) := by
  have fits : (number.toNat : Int) ≤ maxUnsigned := by
    have number_lt := number.toNat_lt
    rw [maxUnsigned]
    omega
  have holds : -(maxSigned + 1) ≤ (number.toNat : Int) ∧ (number.toNat : Int) ≤ maxUnsigned :=
    ⟨by omega, fits⟩
  have read := (reads_integerText wanted 0 maxUnsigned holds).map fun value =>
    UInt64.ofNat value.toNat
  have text_eq : integerText number.toNat = decimalDigits number.toNat := by
    simp [integerText]
  have number_eq : UInt64.ofNat (number.toNat : Int).toNat = number := by simp
  rw [text_eq, if_pos ⟨by omega, fits⟩, Except.map, number_eq] at read
  exact read

end Integer

theorem reads_writeFlag (flag : Bool) : Reads readFlag (writeFlag flag) (.ok flag) := by
  cases flag with
  | true =>
      have written_eq : Text.encodeUtf8 (writeFlag true) = letterT :: wordTrue := by decide
      refine ⟨⟨letterT, wordTrue, written_eq, by decide⟩, ?_⟩
      intro rest _
      rw [written_eq]
      rfl
  | false =>
      have written_eq : Text.encodeUtf8 (writeFlag false) = letterF :: wordFalse := by decide
      refine ⟨⟨letterF, wordFalse, written_eq, by decide⟩, ?_⟩
      intro rest _
      rw [written_eq]
      rfl

section Blanks

/-- A reader passes over the blanks before a value. -/
def SkipsBlanks (reader : Reader α) : Prop :=
  ∀ blanks, (∀ byte ∈ blanks, isBlank byte) → ∀ bytes, reader (blanks ++ bytes) = reader bytes

theorem skipsBlanks_readNumberAs (wanted : String) : SkipsBlanks (readNumberAs wanted) := by
  intro blanks all_blank bytes
  simp only [readNumberAs, skipBlanks_append all_blank]

theorem skipsBlanks_readFlag : SkipsBlanks readFlag := by
  intro blanks all_blank bytes
  simp only [readFlag, skipBlanks_append all_blank]

theorem SkipsBlanks.bind {reader : Reader α} (skips : SkipsBlanks reader)
    (next : α × List UInt8 → Except Failure (β × List UInt8)) :
    SkipsBlanks fun bytes => reader bytes >>= next := by
  intro blanks all_blank bytes
  simp only [skips blanks all_blank bytes]

theorem skipsBlanks_readUnsignedAs (wanted : String) : SkipsBlanks (readUnsignedAs wanted) :=
  ((skipsBlanks_readNumberAs wanted).bind _).bind _

theorem skipsBlanks_readFloat : SkipsBlanks readFloat :=
  (skipsBlanks_readNumberAs "f64").bind _

end Blanks

end Json

end ScriptedFeed
