import ScriptedFeed.Proofs.Json.Separators

/-!
# Values are passed over, and nothing else is

Passing over a value goes on exactly behind it, whatever its nesting, and succeeds for values only.
What the open arrays and objects still ask of the document is kept as a list of frames; a value
that ends hands it on, and the bytes that are left close it frame by frame.
-/

namespace ScriptedFeed

namespace Json

variable {byte : UInt8} {bytes written rest : List UInt8}

section Text

theorem skipEscape_eq_ok_iff :
    skipEscape bytes = .ok rest ↔ ∃ letters, bytes = letters ++ rest ∧ IsLooseEscape letters := by
  constructor
  · intro skipped
    cases bytes with
    | nil => cases skipped
    | cons letter others =>
        rw [skipEscape] at skipped
        split_ifs at skipped with isShort isUnit
        · cases skipped
          exact ⟨[letter], rfl, .short letter isShort⟩
        · rw [bind_eq_ok_iff] at skipped
          rcases skipped with ⟨⟨unit, last⟩, unit_eq, ⟨⟩⟩
          rcases readCodeUnit_eq_ok_iff.1 unit_eq with ⟨digits, rfl, spells⟩
          exact ⟨letter :: digits, rfl, isUnit ▸ .unit spells⟩
  · rintro ⟨letters, rfl, isEscape⟩
    cases isEscape with
    | short letter isShort => simp [skipEscape, isShort]
    | unit spells =>
        have not_short : shortEscape? 0x75 = none := rfl
        simp [skipEscape, not_short, spells.readCodeUnit_eq]

theorem IsLooseBody.skipTextBytes_eq {body : List UInt8} (isBody : IsLooseBody body)
    {fuel : List UInt8} (length_lt : body.length < fuel.length) (rest : List UInt8) :
    skipTextBytes fuel (body ++ Text.quotationMark :: rest) = .ok rest := by
  induction isBody generalizing fuel with
  | nil =>
      cases fuel with
      | nil => simp at length_lt
      | cons _ fuel => simp [skipTextBytes]
  | byte byte not_mark not_escape not_control _ ih =>
      cases fuel with
      | nil => simp at length_lt
      | cons _ fuel =>
          have not_lt : ¬ byte < 0x20 := UInt8.not_lt.2 not_control
          rw [List.cons_append, skipTextBytes, if_neg not_mark, if_neg not_escape, if_neg not_lt,
            ih (Nat.lt_of_succ_lt_succ length_lt)]
  | escape isEscape _ ih =>
      cases fuel with
      | nil => simp at length_lt
      | cons _ fuel =>
          simp only [List.cons_append, List.length_cons, List.length_append] at length_lt
          rw [List.append_assoc, List.cons_append, skipTextBytes, if_neg (by decide), if_pos rfl,
            skipEscape_eq_ok_iff.2 ⟨_, rfl, isEscape⟩, except_ok_bind, ih (by omega)]

theorem exists_isLooseBody_of_skipTextBytes {fuel : List UInt8}
    (skipped : skipTextBytes fuel bytes = .ok rest) :
    ∃ body, bytes = body ++ Text.quotationMark :: rest ∧ IsLooseBody body := by
  induction fuel generalizing bytes with
  | nil => cases bytes <;> cases skipped
  | cons _ fuel ih =>
      cases bytes with
      | nil => cases skipped
      | cons byte bytes =>
          rw [skipTextBytes] at skipped
          split_ifs at skipped with isMark isEscape isControl
          · cases skipped
            exact ⟨[], by rw [isMark, List.nil_append], .nil⟩
          · rw [bind_eq_ok_iff] at skipped
            rcases skipped with ⟨others, escape_eq, skipped⟩
            rcases skipEscape_eq_ok_iff.1 escape_eq with ⟨letters, rfl, escape⟩
            rcases ih skipped with ⟨body, rfl, isBody⟩
            exact ⟨backslash :: letters ++ body, by simp [isEscape], .escape escape isBody⟩
          · rcases ih skipped with ⟨body, rfl, isBody⟩
            exact ⟨byte :: body, rfl, .byte byte isMark isEscape (UInt8.not_lt.1 isControl) isBody⟩

theorem skipText_eq_ok_iff :
    skipText bytes = .ok rest ↔
      ∃ body, bytes = body ++ Text.quotationMark :: rest ∧ IsLooseBody body := by
  constructor
  · exact exists_isLooseBody_of_skipTextBytes
  · rintro ⟨body, rfl, isBody⟩
    exact isBody.skipTextBytes_eq (by simp) rest

end Text

section Number

theorem dropWhile_isDigit_append (all_digits : ∀ byte ∈ bytes, isDigit byte)
    (ends : EndsDigits rest) : (bytes ++ rest).dropWhile isDigit = rest := by
  rw [List.dropWhile_append_of_pos all_digits]
  cases rest with
  | nil => rfl
  | cons byte rest => rw [List.dropWhile_cons_of_neg (by simp [ends byte rfl])]

theorem all_isDigit_takeWhile (bytes : List UInt8) :
    ∀ byte ∈ bytes.takeWhile isDigit, isDigit byte :=
  fun _ => List.mem_takeWhile_imp

theorem endsDigits_cons (not_digit : isDigit byte = false) (rest : List UInt8) :
    EndsDigits (byte :: rest) := by
  rintro _ ⟨⟩
  exact not_digit

theorem isDigit_of_isExponentMark (isMark : isExponentMark byte) : isDigit byte = false := by
  simp only [isExponentMark, Bool.or_eq_true, decide_eq_true_eq] at isMark
  rcases isMark with rfl | rfl <;> rfl

theorem IsPower.endsDigits {power : List UInt8} (isPower : IsPower power)
    (ends : EndsNumber rest) : EndsDigits (power ++ rest) := by
  cases isPower with
  | absent => exact ends.endsDigits
  | present isMark _ _ => exact endsDigits_cons (isDigit_of_isExponentMark isMark) _

theorem IsPower.not_point {power : List UInt8} (isPower : IsPower power)
    (ends : EndsNumber rest) : ∀ byte ∈ (power ++ rest).head?, byte ≠ point := by
  cases isPower with
  | absent => exact fun byte byte_mem => (ends byte byte_mem).2.1
  | present isMark _ _ =>
      rintro _ ⟨⟩ rfl
      cases isMark

theorem IsFraction.endsDigits {fraction power : List UInt8} (isFraction : IsFraction fraction)
    (isPower : IsPower power) (ends : EndsNumber rest) :
    EndsDigits (fraction ++ (power ++ rest)) := by
  cases isFraction with
  | absent => exact isPower.endsDigits ends
  | present _ => exact endsDigits_cons rfl _

theorem IsPower.skipTail_eq {power : List UInt8} (isPower : IsPower power)
    (ends : EndsNumber rest) : skipTail (power ++ rest) = .ok rest := by
  cases isPower with
  | absent =>
      cases rest with
      | nil => rfl
      | cons byte rest => simp [skipTail, (ends byte rfl).2.2]
  | @present mark sign digits isMark isSign isDigits =>
      rcases isDigits with ⟨first_digit, others_digits⟩
      next first others =>
      have not_sign : ¬(first = plus ∨ first = minus) := by
        rintro (rfl | rfl) <;> cases first_digit
      have dropped := dropWhile_isDigit_append others_digits ends.endsDigits
      rcases isSign with rfl | rfl | rfl <;>
        simp [skipTail, isMark, skipExponent, not_sign, first_digit, dropped]

theorem exists_isDigits_of_skipExponent (skipped : skipExponent bytes = .ok rest) :
    ∃ sign digits, bytes = sign ++ (digits ++ rest) ∧
      (sign = [] ∨ sign = [plus] ∨ sign = [minus]) ∧ IsDigits digits := by
  rcases bytes with _ | ⟨first, bytes⟩
  · cases skipped
  simp only [skipExponent] at skipped
  by_cases isSign : first = plus ∨ first = minus
  · rw [if_pos isSign] at skipped
    rcases bytes with _ | ⟨digit, bytes⟩
    · cases skipped
    simp only at skipped
    split_ifs at skipped with first_digit
    cases skipped
    refine ⟨[first], digit :: bytes.takeWhile isDigit, by simp, by simpa using isSign, ?_⟩
    exact .mk first_digit (all_isDigit_takeWhile bytes)
  · rw [if_neg isSign] at skipped
    simp only at skipped
    split_ifs at skipped with first_digit
    cases skipped
    refine ⟨[], first :: bytes.takeWhile isDigit, by simp, .inl rfl, ?_⟩
    exact .mk first_digit (all_isDigit_takeWhile bytes)

theorem exists_isPower_of_skipTail (skipped : skipTail bytes = .ok rest) :
    ∃ power, bytes = power ++ rest ∧ IsPower power := by
  rcases bytes with _ | ⟨mark, bytes⟩
  · cases skipped
    exact ⟨[], rfl, .absent⟩
  rw [skipTail] at skipped
  split_ifs at skipped with isMark
  · rcases exists_isDigits_of_skipExponent skipped with ⟨sign, digits, rfl, isSign, isDigits⟩
    exact ⟨mark :: (sign ++ digits), by simp, .present isMark isSign isDigits⟩
  · cases skipped
    exact ⟨[], rfl, .absent⟩

theorem IsFraction.skipFractionOrTail_eq {fraction power : List UInt8}
    (isFraction : IsFraction fraction) (isPower : IsPower power) (ends : EndsNumber rest) :
    skipFractionOrTail (fraction ++ (power ++ rest)) = .ok rest := by
  have tail_eq := isPower.skipTail_eq ends
  cases isFraction with
  | absent =>
      rw [List.nil_append]
      cases after_eq : power ++ rest with
      | nil =>
          rw [after_eq] at tail_eq
          exact tail_eq
      | cons byte after =>
          have not_point := isPower.not_point ends byte (by simp [after_eq])
          rw [← after_eq, ← tail_eq, after_eq]
          simp only [skipFractionOrTail, if_neg not_point]
  | present isDigits =>
      rcases isDigits with ⟨first_digit, others_digits⟩
      have dropped := dropWhile_isDigit_append others_digits (isPower.endsDigits ends)
      simp [skipFractionOrTail, first_digit, dropped, tail_eq]

theorem exists_isFraction_of_skipFractionOrTail (skipped : skipFractionOrTail bytes = .ok rest) :
    ∃ fraction power, bytes = fraction ++ (power ++ rest) ∧ IsFraction fraction ∧
      IsPower power := by
  rcases bytes with _ | ⟨byte, bytes⟩
  · cases skipped
    exact ⟨[], [], rfl, .absent, .absent⟩
  simp only [skipFractionOrTail] at skipped
  split_ifs at skipped with isPoint
  · rcases bytes with _ | ⟨first, bytes⟩
    · cases skipped
    simp only at skipped
    split_ifs at skipped with first_digit
    rw [List.dropWhile_cons_of_pos first_digit] at skipped
    rcases exists_isPower_of_skipTail skipped with ⟨power, tail_eq, isPower⟩
    refine ⟨point :: first :: bytes.takeWhile isDigit, power, ?_,
      .present (.mk first_digit (all_isDigit_takeWhile bytes)), isPower⟩
    rw [isPoint, List.cons_append, List.cons_append, ← tail_eq, List.takeWhile_append_dropWhile]
  · rcases exists_isPower_of_skipTail skipped with ⟨power, bytes_eq, isPower⟩
    exact ⟨[], power, by rw [bytes_eq, List.nil_append], .absent, isPower⟩

/-- Passing over a number goes on behind it, where nothing continues it. -/
theorem IsNumeral.skipNumber_eq {numeral : List UInt8} (isNumeral : IsNumeral numeral)
    (ends : EndsNumber rest) : skipNumber (numeral ++ rest) = .ok rest := by
  rcases isNumeral with ⟨⟨first_digit, others_digits, alone⟩, isFraction, isPower⟩
  next fraction power first others =>
  have after_eq := isFraction.skipFractionOrTail_eq isPower ends
  have after_ends := isFraction.endsDigits isPower ends
  have dropped := dropWhile_isDigit_append others_digits after_ends
  by_cases isZero : digitOf first = 0
  · rw [alone isZero, List.append_assoc, List.append_assoc, List.singleton_append]
    cases bytes_eq : fraction ++ (power ++ rest) with
    | nil =>
        rw [bytes_eq] at after_eq
        cases after_eq
        simp [skipNumber, first_digit, isZero]
    | cons second bytes =>
        rw [bytes_eq] at after_eq after_ends
        simp [skipNumber, first_digit, isZero, after_ends second rfl, after_eq]
  · simp [skipNumber, first_digit, isZero, dropped, after_eq]

theorem exists_isNumeral_of_skipNumber (skipped : skipNumber bytes = .ok rest) :
    ∃ numeral, bytes = numeral ++ rest ∧ IsNumeral numeral := by
  rcases bytes with _ | ⟨first, bytes⟩
  · cases skipped
  have of_whole (whole : List UInt8) {after : List UInt8} (isWhole : IsWhole whole)
      (bytes_eq : first :: bytes = whole ++ after)
      (after_skipped : skipFractionOrTail after = .ok rest) :
      ∃ numeral, first :: bytes = numeral ++ rest ∧ IsNumeral numeral := by
    rcases exists_isFraction_of_skipFractionOrTail after_skipped with
      ⟨fraction, power, rfl, isFraction, isPower⟩
    exact ⟨whole ++ (fraction ++ power), by simp [bytes_eq], .mk isWhole isFraction isPower⟩
  simp only [skipNumber] at skipped
  split_ifs at skipped with no_digit not_zero
  · have first_digit : isDigit first := by simpa using no_digit
    refine of_whole _ (.mk first_digit (all_isDigit_takeWhile bytes) ?_) ?_ skipped
    · exact fun isZero => absurd isZero not_zero
    · rw [List.cons_append, List.takeWhile_append_dropWhile]
  · have first_digit : isDigit first := by simpa using no_digit
    refine of_whole [first] (.mk first_digit (by simp) fun _ => rfl) rfl ?_
    split at skipped
    · split_ifs at skipped
      exact skipped
    · exact skipped

end Number

section Values

variable {frame : Frame} {frames : List Frame} {fuel : List UInt8} {state : SkipState}

theorem Frame.endsNumber_closer (frame : Frame) (rest : List UInt8) :
    EndsNumber (frame.closer :: rest) := by
  cases frame <;> exact endsNumber_cons (by decide) rest

/-- What is left to do once a value has ended. -/
def resume (fuel : List UInt8) (state : SkipState) : Except Failure (List UInt8) :=
  match fuel, state with
  | _, .finished rest => .ok rest
  | [], .more _ _ rest => .error (.before .unfinishedValue rest)
  | _ :: fuel, .more frame outer rest => do
      skipValues fuel (frame :: outer) (← frame.skipToValue rest)

theorem skipValues_eq_bind (fuel : List UInt8) (frames : List Frame) (bytes : List UInt8) :
    skipValues fuel frames bytes = skipStart frames bytes >>= resume fuel := by
  cases fuel with
  | nil =>
      rw [skipValues]
      refine bind_congr fun state => ?_
      cases state <;> rfl
  | cons _ fuel =>
      rw [skipValues]
      refine bind_congr fun state => ?_
      cases state <;> rfl

theorem eq_append_of_readWord {word : List UInt8} (read : readWord word bytes = .ok rest) :
    bytes = word ++ rest := by
  induction word generalizing bytes with
  | nil =>
      cases read
      rfl
  | cons letter word ih =>
      rcases bytes with _ | ⟨byte, bytes⟩
      · cases read
      rw [readWord] at read
      split_ifs at read with byte_eq
      rw [ih read, byte_eq, List.cons_append]

/-- What stands before a value is passed over up to the value, or to blanks before it. -/
theorem Frame.IsLead.skipToValue_eq {lead : List UInt8} (isLead : frame.IsLead lead)
    (bytes : List UInt8) :
    ∃ blanks, IsBlanks blanks ∧ frame.skipToValue (lead ++ bytes) = .ok (blanks ++ bytes) := by
  cases frame with
  | array => exact ⟨lead, isLead, rfl⟩
  | object =>
      rcases isLead with ⟨before_blank, ⟨isBody⟩, between_blank, after_blank⟩
      next before between after body =>
      refine ⟨after, after_blank, ?_⟩
      have text_eq :
          skipText (body ++ Text.quotationMark :: (between ++ colon :: (after ++ bytes))) =
          .ok (between ++ colon :: (after ++ bytes)) := skipText_eq_ok_iff.2 ⟨body, rfl, isBody⟩
      simp [skipToValue, skipName, before_blank.skipBlanks_eq, text_eq,
        skipBlanks_cons (show isBlank Text.quotationMark = false by decide),
        readColon_eq between_blank]

/-- After its blanks, what stands before the first value does not close the array or object. -/
theorem Frame.IsLead.openFrame_eq {lead : List UInt8} (isLead : frame.IsLead lead)
    (isValue : IsValue written) (frames : List Frame) (rest : List UInt8) :
    ∃ lead', frame.IsLead lead' ∧ openFrame frame frames (lead ++ (written ++ rest)) =
      .ok (.more frame frames (lead' ++ (written ++ rest))) := by
  cases frame with
  | array =>
      refine ⟨[], IsBlanks.nil, ?_⟩
      rcases isValue.starts with ⟨byte, others, written_eq, announces⟩
      have not_closer : byte ≠ closeBracket := by
        rintro rfl
        exact announces rfl
      rw [openFrame, IsBlanks.skipBlanks_eq isLead, isValue.skipBlanks_eq, List.nil_append]
      simp [written_eq, Frame.closer, not_closer]
  | object =>
      rcases isLead with ⟨before_blank, ⟨isBody⟩, between_blank, after_blank⟩
      next before between after body =>
      refine ⟨_, .mk IsBlanks.nil (.mk isBody) between_blank after_blank, ?_⟩
      rw [openFrame, List.append_assoc, before_blank.skipBlanks_eq]
      simp [skipBlanks_cons (show isBlank Text.quotationMark = false by decide),
        show Text.quotationMark ≠ Frame.object.closer by decide]

/-- Passing over something goes on with what is open, a number of elements having been spent. -/
def IsPassed (written : List UInt8) : Prop :=
  ∃ spent < written.length, ∀ fuel frames blanks rest, spent ≤ fuel.length → IsBlanks blanks →
    EndsNumber rest → skipValues fuel frames (blanks ++ (written ++ rest)) =
      closeFrames frames rest >>= resume (fuel.drop spent)

theorem skipStart_append {blanks : List UInt8} (all_blank : IsBlanks blanks)
    (frames : List Frame) (bytes : List UInt8) :
    skipStart frames (blanks ++ bytes) = skipStart frames bytes := by
  simp only [skipStart, all_blank.skipBlanks_eq]

theorem isPassed_of_skipStart (positive : 0 < written.length)
    (start_eq : ∀ frames rest, EndsNumber rest →
      skipStart frames (written ++ rest) = closeFrames frames rest) : IsPassed written := by
  refine ⟨0, positive, fun fuel frames blanks rest _ all_blank ends => ?_⟩
  rw [skipValues_eq_bind, skipStart_append all_blank, start_eq frames rest ends, List.drop_zero]

/-- After what stands before it, a value inside an array or object is passed over. -/
theorem IsPassed.exists_resume_eq (passed : IsPassed written) : ∃ spent < written.length,
    ∀ {frame lead}, Frame.IsLead frame lead → ∀ first fuel frames rest, spent ≤ fuel.length →
      EndsNumber rest → resume (first :: fuel) (.more frame frames (lead ++ (written ++ rest))) =
        closeFrames (frame :: frames) rest >>= resume (fuel.drop spent) := by
  rcases passed with ⟨spent, spent_lt, passed⟩
  refine ⟨spent, spent_lt, fun isLead first fuel frames rest spent_le ends => ?_⟩
  rcases isLead.skipToValue_eq (written ++ rest) with ⟨gap, gap_blank, to_value_eq⟩
  rw [resume, to_value_eq, except_ok_bind, passed fuel _ gap rest spent_le gap_blank ends]

/-- Once a value in an array or object has ended, its further items are passed over. -/
theorem Holds.exists_closeFrames_eq {items : List (Unit × List UInt8)} {tail : List UInt8}
    (holds : Holds frame.closer (fun _ => frame.IsLead) false items tail)
    (all_passed : ∀ item ∈ items, IsPassed item.2) :
    ∃ spent < tail.length, ∀ fuel frames rest, spent ≤ fuel.length →
      closeFrames (frame :: frames) (tail ++ rest) >>= resume fuel =
        closeFrames frames rest >>= resume (fuel.drop spent) := by
  generalize isFirst_eq : false = isFirst at holds
  induction holds with
  | close _ all_blank =>
      refine ⟨0, by simp, fun fuel frames rest _ => ?_⟩
      simp [closeFrames, all_blank.skipBlanks_eq, skipBlanks_cons (isBlank_closer frame),
        (comma_ne_closer frame).symm]
  | @item _ gap lead rest items label value isGap isLead holds ih =>
      subst isFirst_eq
      rcases isGap with _ | @⟨blanks, all_blank⟩
      rcases List.forall_mem_cons.1 all_passed with ⟨value_passed, others_passed⟩
      rcases value_passed.exists_resume_eq with ⟨spent, spent_lt, value_eq⟩
      rcases ih others_passed rfl with ⟨more, more_lt, others_eq⟩
      have value_length : (label, value).2.length = value.length := rfl
      refine ⟨spent + more + 1, ?_, fun fuel frames after spent_le => ?_⟩
      · simp only [List.length_append, List.length_cons]
        omega
      rcases fuel with _ | ⟨first, fuel⟩
      · simp at spent_le
      rw [List.length_cons] at spent_le
      have ends : EndsNumber (rest ++ after) := holds.endsNumber (frame.endsNumber_closer after)
      have close_eq : closeFrames (frame :: frames)
          (blanks ++ [Text.comma] ++ (lead ++ (value ++ rest)) ++ after) =
            .ok (.more frame frames (lead ++ (value ++ (rest ++ after)))) := by
        simp [closeFrames, all_blank.skipBlanks_eq,
          skipBlanks_cons (show isBlank Text.comma = false by decide)]
      rw [close_eq, except_ok_bind, value_eq isLead first fuel frames _ (by omega) ends,
        others_eq _ frames after (by rw [List.length_drop]; omega), List.drop_drop,
        List.drop_succ_cons]

theorem IsNumber.isPassed (isNumber : IsNumber written) : IsPassed written := by
  cases isNumber with
  | positive isNumeral =>
      rcases (IsValue.number (.positive isNumeral)).starts with ⟨byte, others, written_eq, -⟩
      refine isPassed_of_skipStart (by simp [written_eq]) fun frames rest ends => ?_
      have skipped := isNumeral.skipNumber_eq ends
      rcases isNumeral with ⟨⟨first_digit, -, -⟩, -, -⟩
      have lead_eq := leadOf_eq_digit first_digit
      have not_blank := isBlank_of_leadOf (ne_of_eq_of_ne lead_eq (by decide))
      simp only [List.cons_append] at skipped ⊢
      simp only [skipStart, skipBlanks_cons not_blank, lead_eq, skipped, except_ok_bind]
  | negative isNumeral =>
      refine isPassed_of_skipStart (by simp) fun frames rest ends => ?_
      have lead_eq : leadOf minus = .minus := rfl
      rw [List.cons_append, skipStart, skipBlanks_cons (by decide)]
      simp only [lead_eq, isNumeral.skipNumber_eq ends, except_ok_bind]

theorem IsLooseText.isPassed (isText : IsLooseText written) : IsPassed written := by
  rcases isText with ⟨isBody⟩
  next body =>
  refine isPassed_of_skipStart (by simp) fun frames rest _ => ?_
  have lead_eq : leadOf Text.quotationMark = .text := rfl
  have skipped : skipText (body ++ Text.quotationMark :: rest) = .ok rest :=
    skipText_eq_ok_iff.2 ⟨body, rfl, isBody⟩
  rw [List.cons_append, List.append_assoc, List.singleton_append, skipStart,
    skipBlanks_cons (by decide)]
  simp only [lead_eq, skipped, except_ok_bind]

theorem skipStart_opener (frame : Frame) (frames : List Frame) (bytes : List UInt8) :
    skipStart frames (frame.opener :: bytes) = openFrame frame frames bytes := by
  cases frame <;> rfl

/-- An array or object is passed over if all its values are. -/
theorem Holds.isPassed {items : List (Unit × List UInt8)} {inner : List UInt8}
    (holds : Holds frame.closer (fun _ => frame.IsLead) true items inner)
    (all_values : ∀ item ∈ items, IsValue item.2) (all_passed : ∀ item ∈ items, IsPassed item.2) :
    IsPassed (frame.opener :: inner) := by
  cases holds with
  | close _ all_blank =>
      refine isPassed_of_skipStart (by simp) fun frames rest _ => ?_
      rw [List.cons_append, skipStart_opener, openFrame, List.append_assoc, all_blank.skipBlanks_eq,
        List.singleton_append, skipBlanks_cons (isBlank_closer frame)]
      simp
  | @item _ gap lead tail others label value isGap isLead holds =>
      rcases isGap with ⟨⟩
      rcases List.forall_mem_cons.1 all_passed with ⟨value_passed, others_passed⟩
      rcases value_passed.exists_resume_eq with ⟨spent, spent_lt, value_eq⟩
      rcases holds.exists_closeFrames_eq others_passed with ⟨more, more_lt, others_eq⟩
      have isValue : IsValue value := all_values _ List.mem_cons_self
      have value_length : (label, value).2.length = value.length := rfl
      refine ⟨spent + more + 1, ?_, fun fuel frames blanks rest spent_le all_blank _ => ?_⟩
      · simp only [List.length_append, List.length_cons]
        omega
      rcases fuel with _ | ⟨first, fuel⟩
      · simp at spent_le
      rw [List.length_cons] at spent_le
      have ends : EndsNumber (tail ++ rest) := holds.endsNumber (frame.endsNumber_closer rest)
      rcases isLead.openFrame_eq isValue frames (tail ++ rest) with ⟨lead', isLead', open_eq⟩
      rw [skipValues_eq_bind, skipStart_append all_blank, List.cons_append, skipStart_opener,
        List.nil_append, List.append_assoc, List.append_assoc, open_eq, except_ok_bind,
        value_eq isLead' first fuel frames _ (by omega) ends,
        others_eq _ frames rest (by rw [List.length_drop]; omega), List.drop_drop,
        List.drop_succ_cons]

theorem IsValue.isPassed (isValue : IsValue written) : IsPassed written := by
  induction isValue with
  | null => exact isPassed_of_skipStart (by simp) fun _ _ _ => rfl
  | yes => exact isPassed_of_skipStart (by simp) fun _ _ _ => rfl
  | no => exact isPassed_of_skipStart (by simp) fun _ _ _ => rfl
  | number isNumber => exact isNumber.isPassed
  | text isText => exact isText.isPassed
  | nested frame holds all_values ih => exact holds.isPassed all_values ih

/-- A value is passed over, with the blanks before it, up to what comes after it. -/
theorem IsValue.skipValue_eq {blanks : List UInt8} (isValue : IsValue written)
    (all_blank : IsBlanks blanks) (ends : EndsNumber rest) :
    skipValue (blanks ++ (written ++ rest)) = .ok rest := by
  rcases isValue.isPassed with ⟨spent, spent_lt, passed⟩
  have spent_le : spent ≤ (blanks ++ (written ++ rest)).length := by
    simp only [List.length_append]
    omega
  rw [skipValue, passed _ [] blanks rest spent_le all_blank ends]
  cases (blanks ++ (written ++ rest)).drop spent <;> rfl

/-- What is left of a document closes the open arrays and objects, up to its own rest. -/
inductive Closes : List Frame → List UInt8 → List UInt8 → Prop where
  | nil (rest : List UInt8) : Closes [] rest rest
  | cons {frame : Frame} {outer : List Frame} {items : List (Unit × List UInt8)}
      {tail bytes rest : List UInt8}
      (holds : Holds frame.closer (fun _ => frame.IsLead) false items tail)
      (all_values : ∀ item ∈ items, IsValue item.2) (closes : Closes outer bytes rest) :
      Closes (frame :: outer) (tail ++ bytes) rest

/-- A value stands first, and what comes after it closes what is open. -/
def StartsAndCloses (frames : List Frame) (bytes rest : List UInt8) : Prop :=
  ∃ blanks written after, bytes = blanks ++ (written ++ after) ∧ IsBlanks blanks ∧
    IsValue written ∧ Closes frames after rest

theorem Frame.exists_isLead_of_skipToValue (skipped : frame.skipToValue bytes = .ok rest) :
    ∃ lead, bytes = lead ++ rest ∧ frame.IsLead lead := by
  cases frame with
  | array =>
      cases skipped
      exact ⟨[], rfl, IsBlanks.nil⟩
  | object =>
      simp only [skipToValue, skipName] at skipped
      split at skipped
      · cases skipped
      · next byte others skipped_eq =>
        rcases exists_eq_append_of_skipBlanks skipped_eq with ⟨before, rfl, before_blank⟩
        split_ifs at skipped with isMark
        rw [bind_eq_ok_iff] at skipped
        rcases skipped with ⟨middle, text_eq, colon_eq⟩
        rcases skipText_eq_ok_iff.1 text_eq with ⟨body, rfl, isBody⟩
        rcases exists_isBlanks_of_readColon colon_eq with ⟨between, between_blank, rfl⟩
        refine ⟨_, ?_, .mk before_blank (.mk isBody) between_blank IsBlanks.nil⟩
        rw [isMark]
        simp

/-- A further item, which stands after a comma, is closed by what closes its value. -/
theorem Closes.item {before lead after : List UInt8} (before_blank : IsBlanks before)
    (isLead : frame.IsLead lead) (isValue : IsValue written)
    (closes : Closes (frame :: frames) after rest) :
    Closes (frame :: frames) (before ++ Text.comma :: (lead ++ (written ++ after))) rest := by
  cases closes with
  | cons holds all_values closes =>
      have item_holds := Holds.item () written (.later before_blank) isLead holds
      have item_closes := Closes.cons item_holds
        (List.forall_mem_cons.2 ⟨isValue, all_values⟩) closes
      simpa using item_closes

/-- An array or object whose first value stands first is closed by what closes that value. -/
theorem StartsAndCloses.nested {lead : List UInt8} (isLead : frame.IsLead lead)
    (first : StartsAndCloses (frame :: frames) bytes rest) :
    StartsAndCloses frames (frame.opener :: (lead ++ bytes)) rest := by
  rcases first with ⟨blanks, written, after, rfl, all_blank, isValue, closes⟩
  cases closes with
  | @cons _ _ items tail bytes _ holds all_values closes =>
      have all_hold := Holds.item () written .first (isLead.append_blanks all_blank)
        holds
      have isNested := IsValue.nested frame all_hold
        (List.forall_mem_cons.2 ⟨isValue, all_values⟩)
      exact ⟨[], _, bytes, by simp, IsBlanks.nil, isNested, closes⟩

theorem StartsAndCloses.blanks_append {blanks : List UInt8} (all_blank : IsBlanks blanks)
    (starts : StartsAndCloses frames bytes rest) :
    StartsAndCloses frames (blanks ++ bytes) rest := by
  rcases starts with ⟨more, written, after, rfl, more_blank, isValue, closes⟩
  exact ⟨blanks ++ more, written, after, by simp, all_blank.append more_blank, isValue, closes⟩

/-- The rest of passing over, which spends an element first, is in order. -/
def RestCloses (fuel rest : List UInt8) : Prop :=
  ∀ first others, fuel = first :: others → ∀ {frames bytes},
    skipValues others frames bytes = .ok rest → StartsAndCloses frames bytes rest

theorem RestCloses.of_resume {outer : List Frame} (rest_closes : RestCloses fuel rest)
    (resumed : resume fuel (.more frame outer bytes) = .ok rest) :
    ∃ lead others, bytes = lead ++ others ∧ frame.IsLead lead ∧
      StartsAndCloses (frame :: outer) others rest := by
  rcases fuel with _ | ⟨first, fuel⟩
  · cases resumed
  rw [resume, bind_eq_ok_iff] at resumed
  rcases resumed with ⟨others, to_value_eq, passed⟩
  rcases Frame.exists_isLead_of_skipToValue to_value_eq with ⟨lead, rfl, isLead⟩
  exact ⟨lead, others, rfl, isLead, rest_closes first fuel rfl passed⟩

theorem closes_of_closeFrames (rest_closes : RestCloses fuel rest)
    (closed : closeFrames frames bytes = .ok state) (resumed : resume fuel state = .ok rest) :
    Closes frames bytes rest := by
  induction frames generalizing bytes with
  | nil =>
      cases closed
      cases fuel <;> cases resumed <;> exact .nil _
  | cons frame frames ih =>
      rw [closeFrames] at closed
      split at closed
      · cases closed
      · next byte others skipped_eq =>
        rcases exists_eq_append_of_skipBlanks skipped_eq with ⟨before, rfl, before_blank⟩
        split_ifs at closed with isComma isCloser
        · cases closed
          rcases rest_closes.of_resume resumed with
            ⟨lead, _, rfl, isLead, blanks, written, after, rfl, all_blank, isValue, closes⟩
          rw [isComma, ← List.append_assoc lead blanks]
          exact closes.item before_blank (isLead.append_blanks all_blank) isValue
        · have closes : Closes (frame :: frames) ((before ++ [frame.closer]) ++ others) rest :=
            .cons (.close false before_blank) (by simp) (ih closed)
          simpa [isCloser] using closes

theorem startsAndCloses_of_openFrame (rest_closes : RestCloses fuel rest)
    (opened : openFrame frame frames bytes = .ok state) (resumed : resume fuel state = .ok rest) :
    StartsAndCloses frames (frame.opener :: bytes) rest := by
  rw [openFrame] at opened
  split at opened
  · cases opened
  · next byte others skipped_eq =>
    rcases exists_eq_append_of_skipBlanks skipped_eq with ⟨before, rfl, before_blank⟩
    split_ifs at opened with isCloser
    · have closes := closes_of_closeFrames rest_closes opened resumed
      refine ⟨[], frame.opener :: (before ++ [frame.closer]), others, by simp [isCloser],
        IsBlanks.nil, ?_, closes⟩
      exact .nested frame (.close true before_blank) (by simp)
    · cases opened
      rcases rest_closes.of_resume resumed with ⟨lead, others, lead_eq, isLead, first⟩
      rw [lead_eq, ← List.append_assoc]
      exact first.nested (isLead.blanks_append before_blank)

theorem startsAndCloses_of_skipStart (rest_closes : RestCloses fuel rest)
    (started : skipStart frames bytes = .ok state) (resumed : resume fuel state = .ok rest) :
    StartsAndCloses frames bytes rest := by
  rw [skipStart] at started
  split at started
  · cases started
  next byte others skipped_eq =>
  rcases exists_eq_append_of_skipBlanks skipped_eq with ⟨before, rfl, before_blank⟩
  apply StartsAndCloses.blanks_append before_blank
  -- A value without parts ends at once, and what comes after it is what is left to close.
  have of_value {written others : List UInt8} (isValue : IsValue written)
      (closed : closeFrames frames others = .ok state) :
      StartsAndCloses frames (written ++ others) rest :=
    ⟨[], written, others, rfl, IsBlanks.nil, isValue,
      closes_of_closeFrames rest_closes closed resumed⟩
  have of_word {letter : UInt8} {word : List UInt8} (isValue : IsValue (letter :: word))
      (fits : byte = letter)
      (read : ∃ after, readWord word others = .ok after ∧ closeFrames frames after = .ok state) :
      StartsAndCloses frames (byte :: others) rest := by
    rcases read with ⟨after, word_eq, closed⟩
    rw [fits, eq_append_of_readWord word_eq, ← List.cons_append]
    exact of_value isValue closed
  have fits := fits_leadOf byte
  cases lead_eq : leadOf byte <;> rw [lead_eq] at fits <;>
    simp only [lead_eq, bind_eq_ok_iff] at started
  case null => exact of_word .null fits started
  case yes => exact of_word .yes fits started
  case no => exact of_word .no fits started
  case minus =>
    rcases started with ⟨after, number_eq, closed⟩
    rcases exists_isNumeral_of_skipNumber number_eq with ⟨numeral, rfl, isNumeral⟩
    rw [fits, ← List.cons_append]
    exact of_value (.number (.negative isNumeral)) closed
  case digit =>
    rcases started with ⟨after, number_eq, closed⟩
    rcases exists_isNumeral_of_skipNumber number_eq with ⟨numeral, numeral_eq, isNumeral⟩
    rw [numeral_eq]
    exact of_value (.number (.positive isNumeral)) closed
  case text =>
    rcases started with ⟨after, text_eq, closed⟩
    rcases skipText_eq_ok_iff.1 text_eq with ⟨body, rfl, isBody⟩
    have starts := of_value (.text (.mk isBody)) closed
    rw [fits]
    simpa using starts
  case array =>
    rw [fits]
    exact startsAndCloses_of_openFrame rest_closes started resumed
  case object =>
    rw [fits]
    exact startsAndCloses_of_openFrame rest_closes started resumed
  case nothing => cases started

theorem startsAndCloses_of_skipValues (passed : skipValues fuel frames bytes = .ok rest) :
    StartsAndCloses frames bytes rest := by
  induction fuel generalizing frames bytes with
  | nil =>
      rw [skipValues_eq_bind, bind_eq_ok_iff] at passed
      rcases passed with ⟨state, started, resumed⟩
      have rest_closes : RestCloses [] rest := by
        rintro first others ⟨⟩
      exact startsAndCloses_of_skipStart rest_closes started resumed
  | cons first fuel ih =>
      rw [skipValues_eq_bind, bind_eq_ok_iff] at passed
      rcases passed with ⟨state, started, resumed⟩
      have rest_closes : RestCloses (first :: fuel) rest := by
        rintro _ _ ⟨⟩ frames bytes passed
        exact ih passed
      exact startsAndCloses_of_skipStart rest_closes started resumed

/-- What is passed over is a value, with blanks before it. -/
theorem exists_isValue_of_skipValue (skipped : skipValue bytes = .ok rest) :
    ∃ blanks written, bytes = blanks ++ (written ++ rest) ∧ IsBlanks blanks ∧ IsValue written := by
  rcases startsAndCloses_of_skipValues skipped with
    ⟨blanks, written, after, rfl, all_blank, isValue, closes⟩
  cases closes
  exact ⟨blanks, written, rfl, all_blank, isValue⟩

end Values

end Json

end ScriptedFeed
