import ScriptedFeed.Proofs.Json.Accuracy
import ScriptedFeed.Proofs.Json.Numeral
import ScriptedFeed.Proofs.Number.Numeral

/-!
# What is gathered from the digits of a number

The digits before the point are gathered up to one that 64 bits do not hold any more, and so are the
digits after it. All of them are gathered if 64 bits hold their number. Otherwise so many are that
the number is changed by a very small part of it, although a digit after the point may be gathered
where one before it has been left out.
-/

namespace ScriptedFeed

namespace Json

variable {negative : Bool} {gathered : Gathered} {start : ℕ} {exponent power : ℤ}
  {digits held left fraction powerText text : List Char} {bytes rest written : List UInt8}
  {numeral : Numeral} {number : Number} {speed : Binary64}

section Texts

theorem length_encodeUtf8_of_digits (all_digits : ∀ digit ∈ digits, digit.isDigit) :
    (Text.encodeUtf8 digits).length = digits.length := by
  induction digits with
  | nil => rfl
  | cons digit digits ih =>
      rcases List.forall_mem_cons.1 all_digits with ⟨digit_isDigit, others_digits⟩
      rw [encodeUtf8_digit digit_isDigit, List.length_cons, List.length_cons, ih others_digits]

/-- Bytes that are digits are a text of digits. -/
theorem exists_digits_of_all_isDigit (all_digits : ∀ byte ∈ bytes, isDigit byte) :
    ∃ digits, bytes = Text.encodeUtf8 digits ∧ ∀ digit ∈ digits, digit.isDigit := by
  induction bytes with
  | nil => exact ⟨[], rfl, by simp⟩
  | cons byte bytes ih =>
      rcases List.forall_mem_cons.1 all_digits with ⟨byte_digit, others_digits⟩
      rcases exists_digit_of_isDigit byte_digit with ⟨digit, digit_isDigit, rfl⟩
      rcases ih others_digits with ⟨digits, rfl, digits_isDigit⟩
      refine ⟨digit :: digits, ?_, List.forall_mem_cons.2 ⟨digit_isDigit, digits_isDigit⟩⟩
      rw [encodeUtf8_digit digit_isDigit]

theorem IsDigits.exists_text (isDigits : IsDigits bytes) :
    ∃ digits, bytes = Text.encodeUtf8 digits ∧ ScriptedFeed.IsDigits digits := by
  rcases isDigits with ⟨first_digit, others_digits⟩
  rcases exists_digits_of_all_isDigit (List.forall_mem_cons.2 ⟨first_digit, others_digits⟩) with
    ⟨digits, bytes_eq, all_digits⟩
  refine ⟨digits, bytes_eq, ?_, all_digits⟩
  rintro rfl
  cases bytes_eq

theorem IsFraction.exists_text (isFraction : IsFraction bytes) :
    ∃ fraction digits, bytes = Text.encodeUtf8 fraction ∧ SpellsFraction fraction digits := by
  cases isFraction with
  | absent => exact ⟨[], [], rfl, .absent⟩
  | present isDigits =>
      rcases isDigits.exists_text with ⟨digits, rfl, spells⟩
      exact ⟨'.' :: digits, digits, rfl, .present spells⟩

theorem IsPower.exists_text (isPower : IsPower bytes) :
    ∃ text power, bytes = Text.encodeUtf8 text ∧ SpellsPower text power := by
  cases isPower with
  | absent => exact ⟨[], 0, rfl, .absent⟩
  | @present byte sign digits isMark isSign isDigits =>
      rcases isDigits.exists_text with ⟨digits, rfl, spells⟩
      have mark_eq : ∃ mark, (mark = 'e' ∨ mark = 'E') ∧ ∀ text,
          byte :: Text.encodeUtf8 text = Text.encodeUtf8 (mark :: text) := by
        simp only [isExponentMark, Bool.or_eq_true, decide_eq_true_eq] at isMark
        rcases isMark with rfl | rfl
        · exact ⟨'e', .inl rfl, fun _ => rfl⟩
        · exact ⟨'E', .inr rfl, fun _ => rfl⟩
      rcases mark_eq with ⟨mark, isMark, mark_eq⟩
      rcases isSign with rfl | rfl | rfl
      · exact ⟨_, _, mark_eq digits, .present isMark (.unsigned spells)⟩
      · exact ⟨_, _, mark_eq ('+' :: digits), .present isMark (.plus spells)⟩
      · exact ⟨_, _, mark_eq ('-' :: digits), .present isMark (.minus spells)⟩

theorem IsNumeral.exists_text (isNumeral : IsNumeral written) :
    ∃ text numeral, written = Text.encodeUtf8 text ∧ SpellsNumeral text numeral := by
  rcases isNumeral with ⟨⟨first_digit, others_digits, alone⟩, isFraction, isPower⟩
  rcases exists_digit_of_isDigit first_digit with ⟨first, first_isDigit, rfl⟩
  rcases exists_digits_of_all_isDigit others_digits with ⟨others, rfl, others_isDigit⟩
  rcases isFraction.exists_text with ⟨fraction, digits, rfl, spellsFraction⟩
  rcases isPower.exists_text with ⟨powerText, power, rfl, spellsPower⟩
  refine ⟨first :: others ++ (fraction ++ powerText), _, ?_,
    .mk (List.forall_mem_cons.2 ⟨first_isDigit, others_isDigit⟩) ?_ spellsFraction spellsPower⟩
  · rw [Text.encodeUtf8_append, Text.encodeUtf8_append, encodeUtf8_digit first_isDigit]
  · rintro rfl
    have encoded_nil := alone (by decide)
    rw [← List.length_eq_zero_iff, length_encodeUtf8_of_digits others_isDigit] at encoded_nil
    exact List.length_eq_zero_iff.1 encoded_nil

/-- What has the form of a number writes one. -/
theorem IsNumber.exists_text (isNumber : IsNumber written) :
    ∃ text negative numeral,
      written = Text.encodeUtf8 text ∧ SpellsNumber text negative numeral := by
  cases isNumber with
  | positive isNumeral =>
      rcases isNumeral.exists_text with ⟨text, numeral, rfl, spells⟩
      exact ⟨text, false, numeral, rfl, .positive spells⟩
  | negative isNumeral =>
      rcases isNumeral.exists_text with ⟨text, numeral, rfl, spells⟩
      exact ⟨'-' :: text, true, numeral, rfl, .negative spells⟩

end Texts

section Held

/-- Of some digits the first ones are gathered, up to one that 64 bits do not hold any more. -/
structure IsHeldOf (held left digits : List Char) (start : ℕ) : Prop where
  digits_eq : digits = held ++ left
  fits : Nat.ofDigitChars 10 held start ≤ maxUnsigned
  full : ∀ digit ∈ left.head?,
    maxUnsigned < Nat.ofDigitChars 10 held start * 10 + (digit.toNat - '0'.toNat)

theorem exists_isHeldOf (digits : List Char) (fits : start ≤ maxUnsigned) :
    ∃ held left, IsHeldOf held left digits start := by
  induction digits generalizing start with
  | nil => exact ⟨[], [], rfl, by simpa using fits, by simp⟩
  | cons digit digits ih =>
      rcases Nat.lt_or_ge maxUnsigned (start * 10 + (digit.toNat - '0'.toNat)) with beyond | within
      · refine ⟨[], digit :: digits, rfl, by simpa using fits, ?_⟩
        rintro _ ⟨⟩
        simpa using beyond
      · rcases ih within with ⟨held, left, isHeld⟩
        refine ⟨digit :: held, left, by rw [isHeld.digits_eq, List.cons_append], ?_, ?_⟩
        · rw [Nat.ofDigitChars_cons, Nat.mul_comm 10]
          exact isHeld.fits
        · rw [Nat.ofDigitChars_cons, Nat.mul_comm 10 start]
          exact isHeld.full

namespace IsHeldOf

theorem held_digits (isHeld : IsHeldOf held left digits start)
    (all_digits : ∀ digit ∈ digits, digit.isDigit) : ∀ digit ∈ held, digit.isDigit := by
  rw [isHeld.digits_eq] at all_digits
  exact (List.forall_mem_append.1 all_digits).1

theorem left_digits (isHeld : IsHeldOf held left digits start)
    (all_digits : ∀ digit ∈ digits, digit.isDigit) : ∀ digit ∈ left, digit.isDigit := by
  rw [isHeld.digits_eq] at all_digits
  exact (List.forall_mem_append.1 all_digits).2

/-- Where 64 bits hold the number of all digits, none is left out. -/
theorem left_eq_nil (isHeld : IsHeldOf held left digits start)
    (fits : Nat.ofDigitChars 10 digits start ≤ maxUnsigned) : left = [] := by
  rcases isHeld with ⟨rfl, -, full⟩
  cases left with
  | nil => rfl
  | cons digit left =>
      have beyond := full digit rfl
      rw [Nat.ofDigitChars_append, Nat.ofDigitChars_cons, Nat.mul_comm] at fits
      exact absurd ((le_ofDigitChars left _).trans fits) (Nat.not_le.2 beyond)

/-- Where a digit is left out, the number of the others nearly fills 64 bits. -/
theorem large (isHeld : IsHeldOf held left digits start)
    (all_digits : ∀ digit ∈ digits, digit.isDigit) (left_ne : left ≠ []) :
    2 ^ 60 ≤ Nat.ofDigitChars 10 held start := by
  have left_digits := isHeld.left_digits all_digits
  rcases List.exists_cons_of_ne_nil left_ne with ⟨digit, others, rfl⟩
  have bounds := isDigit_iff_bounds.1 (left_digits digit List.mem_cons_self)
  have beyond := isHeld.full digit rfl
  have zero_eq : '0'.toNat = 48 := rfl
  rw [maxUnsigned] at beyond
  omega

/-- A digit that 64 bits do not hold ends what is gathered after the point. -/
theorem gatherFraction_eq (isHeld : IsHeldOf held left digits start)
    (all_digits : ∀ digit ∈ digits, digit.isDigit) (exponent : ℤ) (ends : EndsDigits rest) :
    gatherFraction ⟨start, exponent⟩ (Text.encodeUtf8 digits ++ rest) =
      (⟨Nat.ofDigitChars 10 held start, exponent - held.length⟩, rest) := by
  have left_digits := isHeld.left_digits all_digits
  rw [isHeld.digits_eq, Text.encodeUtf8_append, List.append_assoc,
    gatherFraction_append exponent (isHeld.held_digits all_digits) isHeld.fits]
  cases left with
  | nil => exact gatherFraction_of_endsDigits _ ends
  | cons digit left =>
      rcases List.forall_mem_cons.1 left_digits with ⟨digit_isDigit, others_digits⟩
      have beyond := isHeld.full digit rfl
      have dropped := dropWhile_isDigit_append (all_isDigit_encodeUtf8 others_digits) ends
      rw [encodeUtf8_digit_append digit_isDigit, gatherFraction]
      simp only [isDigit_ofNat_toNat digit_isDigit, digitOf_ofNat_toNat digit_isDigit, beyond,
        if_true, dropped]

/-- A digit that 64 bits do not hold counts, with all that follow it, before the point. -/
theorem readWhole_eq (isHeld : IsHeldOf held left digits start)
    (all_digits : ∀ digit ∈ digits, digit.isDigit) (left_ne : left ≠ []) (ends : EndsDigits rest) :
    readWhole negative start (Text.encodeUtf8 digits ++ rest) =
      readFractionOrTail negative ⟨Nat.ofDigitChars 10 held start, left.length⟩ rest := by
  have left_digits := isHeld.left_digits all_digits
  have counted := takeWhile_isDigit_append (all_isDigit_encodeUtf8 left_digits) ends
  have length_eq := length_encodeUtf8_of_digits left_digits
  rw [isHeld.digits_eq, Text.encodeUtf8_append, List.append_assoc,
    readWhole_append negative (isHeld.held_digits all_digits) isHeld.fits]
  rcases List.exists_cons_of_ne_nil left_ne with ⟨digit, others, rfl⟩
  rcases List.forall_mem_cons.1 left_digits with ⟨digit_isDigit, others_digits⟩
  have beyond := isHeld.full digit rfl
  have dropped := dropWhile_isDigit_append (all_isDigit_encodeUtf8 others_digits) ends
  rw [encodeUtf8_digit_append digit_isDigit] at counted ⊢
  simp only [readWhole, isDigit_ofNat_toNat digit_isDigit, digitOf_ofNat_toNat digit_isDigit,
    beyond, if_true, counted, dropped, length_eq]

end IsHeldOf

end Held

section Power

/-- Digits of a power of ten are read up to one that takes it beyond its bound. -/
theorem exists_readExponentDigits_eq_beyond {exponent : ℕ}
    (all_digits : ∀ digit ∈ digits, digit.isDigit) (within : exponent ≤ exponentBound)
    (beyond : exponentBound < Nat.ofDigitChars 10 digits exponent) :
    ∃ rest, readExponentDigits exponent (Text.encodeUtf8 digits) = .beyond rest := by
  induction digits generalizing exponent with
  | nil => exact absurd beyond (Nat.not_lt.2 within)
  | cons digit digits ih =>
      rcases List.forall_mem_cons.1 all_digits with ⟨digit_isDigit, others_digits⟩
      rw [Nat.ofDigitChars_cons, Nat.mul_comm] at beyond
      rw [encodeUtf8_digit digit_isDigit, readExponentDigits,
        if_pos (isDigit_ofNat_toNat digit_isDigit), digitOf_ofNat_toNat digit_isDigit]
      split_ifs with isBeyond
      · exact ⟨_, rfl⟩
      · exact ih others_digits (Nat.not_lt.1 isBeyond) beyond

theorem readPower_of_le (isDigits : ScriptedFeed.IsDigits digits) (shrinks : Bool)
    (fits : Nat.ofDigitChars 10 digits 0 ≤ exponentBound) :
    readPower negative gathered shrinks (Text.encodeUtf8 digits) =
      finishFloat negative ⟨gathered.significand, gathered.exponent +
        if shrinks then -(Nat.ofDigitChars 10 digits 0 : ℤ) else Nat.ofDigitChars 10 digits 0⟩
        [] := by
  rcases isDigits.exists_cons with ⟨first, others, rfl, first_digit, others_digits⟩
  rw [Nat.ofDigitChars_cons, Nat.mul_zero, Nat.zero_add] at fits ⊢
  have nothing_left : EndsDigits [] := by rintro _ ⟨⟩
  have read := readExponentDigits_append others_digits fits nothing_left
  rw [List.append_nil] at read
  rw [encodeUtf8_digit first_digit]
  simp only [readPower, isDigit_ofNat_toNat first_digit, digitOf_ofNat_toNat first_digit, read,
    Bool.not_true, Bool.false_eq_true, if_false]

/-- A power of ten beyond its bound leaves nothing of a number that is not too large. -/
theorem eq_zero_of_readPower {shrinks : Bool} (isDigits : ScriptedFeed.IsDigits digits)
    (beyond : exponentBound < Nat.ofDigitChars 10 digits 0)
    (read : readPower negative gathered shrinks (Text.encodeUtf8 digits) = .ok (number, rest)) :
    number = .float (.finite negative .zero) := by
  rcases isDigits.exists_cons with ⟨first, others, rfl, first_digit, others_digits⟩
  have bounds := isDigit_iff_bounds.1 first_digit
  have within : first.toNat - '0'.toNat ≤ exponentBound := by
    rw [exponentBound]
    omega
  rw [Nat.ofDigitChars_cons, Nat.mul_zero, Nat.zero_add] at beyond
  rcases exists_readExponentDigits_eq_beyond others_digits within beyond with ⟨after, beyond_eq⟩
  rw [encodeUtf8_digit first_digit] at read
  simp only [readPower, isDigit_ofNat_toNat first_digit, digitOf_ofNat_toNat first_digit,
    beyond_eq, Bool.not_true, Bool.false_eq_true, if_false] at read
  split_ifs at read with tooLarge
  cases read
  rfl

/-- A power of ten is written as its sign and its digits. -/
theorem exists_isSign_of_spellsInteger (spells : SpellsInteger text power) :
    ∃ sign shrinks digits, IsSign sign shrinks ∧ ScriptedFeed.IsDigits digits ∧
      Text.encodeUtf8 text = sign ++ Text.encodeUtf8 digits ∧
      power = if shrinks then -(Nat.ofDigitChars 10 digits 0 : ℤ)
        else Nat.ofDigitChars 10 digits 0 := by
  cases spells with
  | unsigned isDigits => exact ⟨[], false, text, .absent, isDigits, rfl, rfl⟩
  | @plus digits isDigits => exact ⟨[plus], false, digits, .plus, isDigits, rfl, rfl⟩
  | @minus digits isDigits => exact ⟨[minus], true, digits, .minus, isDigits, rfl, rfl⟩

/-- The power of ten after its letter is read with its sign from its digits. -/
theorem exists_readTail_eq_readPower {mark : Char} (isMark : mark = 'e' ∨ mark = 'E')
    (spells : SpellsInteger text power) :
    ∃ shrinks digits, ScriptedFeed.IsDigits digits ∧
      power.natAbs = Nat.ofDigitChars 10 digits 0 ∧
      (power = if shrinks then -(Nat.ofDigitChars 10 digits 0 : ℤ)
        else Nat.ofDigitChars 10 digits 0) ∧
      ∀ gathered, readTail negative gathered (Text.encodeUtf8 (mark :: text)) =
        readPower negative gathered shrinks (Text.encodeUtf8 digits) := by
  rcases exists_isSign_of_spellsInteger spells with
    ⟨sign, shrinks, digits, isSign, isDigits, text_eq, power_eq⟩
  have natAbs_eq : power.natAbs = Nat.ofDigitChars 10 digits 0 := by
    rw [power_eq]
    split_ifs
    · rw [Int.natAbs_neg, Int.natAbs_natCast]
    · rw [Int.natAbs_natCast]
  refine ⟨shrinks, digits, isDigits, natAbs_eq, power_eq, fun gathered => ?_⟩
  have tail_eq : readTail negative gathered (Text.encodeUtf8 (mark :: text)) =
      readExponent negative gathered (Text.encodeUtf8 text) := by
    rcases isMark with rfl | rfl <;> rfl
  rcases isDigits.exists_cons with ⟨first, others, rfl, first_digit, -⟩
  rw [tail_eq, text_eq, encodeUtf8_digit first_digit,
    isSign.readExponent_eq (isDigit_ofNat_toNat first_digit)]

theorem readTail_of_lt (spells : SpellsPower powerText power) (inRange : power.natAbs < 2 ^ 31) :
    readTail negative gathered (Text.encodeUtf8 powerText) =
      finishFloat negative ⟨gathered.significand, gathered.exponent + power⟩ [] := by
  cases spells with
  | absent =>
      rw [Int.add_zero]
      rfl
  | present isMark spells =>
      rcases exists_readTail_eq_readPower isMark spells with
        ⟨shrinks, digits, isDigits, natAbs_eq, power_eq, read_eq⟩
      have fits : Nat.ofDigitChars 10 digits 0 ≤ exponentBound := by
        rw [← natAbs_eq]
        exact Nat.le_of_lt_succ inRange
      rw [read_eq, readPower_of_le isDigits shrinks fits, ← power_eq]

theorem eq_zero_of_readTail (spells : SpellsPower powerText power)
    (beyond : 2 ^ 31 ≤ power.natAbs)
    (read : readTail negative gathered (Text.encodeUtf8 powerText) = .ok (number, rest)) :
    number = .float (.finite negative .zero) := by
  cases spells with
  | absent => exact absurd beyond (by decide)
  | present isMark spells =>
      rcases exists_readTail_eq_readPower isMark spells with
        ⟨shrinks, digits, isDigits, natAbs_eq, -, read_eq⟩
      have isBeyond : exponentBound < Nat.ofDigitChars 10 digits 0 := by
        rw [← natAbs_eq]
        exact beyond
      rw [read_eq] at read
      exact eq_zero_of_readPower isDigits isBeyond read

end Power

section Whole

/-- What follows the digits before the point is empty, or goes on with the number. -/
theorem point_or_mark_of_mem_head? (isFraction : SpellsFraction fraction digits)
    (isPower : SpellsPower powerText power) :
    ∀ byte ∈ (Text.encodeUtf8 (fraction ++ powerText)).head?,
      byte = point ∨ isExponentMark byte := by
  cases isFraction with
  | present _ =>
      rintro _ ⟨⟩
      exact .inl rfl
  | absent =>
      cases isPower with
      | absent => simp
      | present isMark _ =>
          rcases isMark with rfl | rfl <;>
          · rintro _ ⟨⟩
            exact .inr rfl

theorem endsDigits_of_point_or_mark
    (goes_on : ∀ byte ∈ bytes.head?, byte = point ∨ isExponentMark byte) : EndsDigits bytes := by
  intro byte byte_mem
  rcases goes_on byte byte_mem with rfl | isMark
  · rfl
  · exact isDigit_of_isExponentMark isMark

theorem head?_ne_point_of_spellsPower (isPower : SpellsPower powerText power) :
    ∀ byte ∈ (Text.encodeUtf8 powerText).head?, byte ≠ point := by
  cases isPower with
  | absent => simp
  | present isMark _ =>
      rcases isMark with rfl | rfl <;>
      · rintro _ ⟨⟩
        decide

/-- The digits after the point are gathered as far as 64 bits hold them. -/
theorem readFractionOrTail_eq (isFraction : SpellsFraction fraction digits)
    (isPower : SpellsPower powerText power) (isHeld : IsHeldOf held left digits start)
    (exponent : ℤ) :
    readFractionOrTail negative ⟨start, exponent⟩ (Text.encodeUtf8 (fraction ++ powerText)) =
      readTail negative ⟨Nat.ofDigitChars 10 held start, exponent - held.length⟩
        (Text.encodeUtf8 powerText) := by
  cases isFraction with
  | absent =>
      have held_eq : held = [] := (List.append_eq_nil_iff.1 isHeld.digits_eq.symm).1
      rw [held_eq, List.nil_append,
        readFractionOrTail_of_not_point (head?_ne_point_of_spellsPower isPower)]
      simp
  | present isDigits =>
      have power_ends : EndsDigits (Text.encodeUtf8 powerText) :=
        endsDigits_of_point_or_mark (point_or_mark_of_mem_head? .absent isPower)
      have gathered_eq := isHeld.gatherFraction_eq isDigits.2 exponent power_ends
      rcases isDigits.exists_cons with ⟨first, others, rfl, first_digit, -⟩
      have text_eq : Text.encodeUtf8 ('.' :: first :: others ++ powerText) =
          point :: (Text.encodeUtf8 (first :: others) ++ Text.encodeUtf8 powerText) := by
        rw [List.cons_append, Text.encodeUtf8_cons_of_lt (by decide), Text.encodeUtf8_append]
        rfl
      rw [text_eq]
      rw [encodeUtf8_digit_append first_digit] at gathered_eq ⊢
      simp only [readFractionOrTail, if_true, readFraction, isDigit_ofNat_toNat first_digit,
        gathered_eq]

/-- What is read up to the end of a text is a number of the format. -/
def GivesFloat (result : Except Failure (Number × List UInt8)) (speed : Binary64) : Prop :=
  ∃ number, result = .ok (number, []) ∧ number.toFloat = speed

theorem givesFloat_finishFloat_iff : GivesFloat (finishFloat negative gathered []) speed ↔
    ∃ magnitude, gathered.magnitude? = some magnitude ∧ speed = .finite negative magnitude := by
  simp only [GivesFloat, finishFloat_eq_ok_iff, true_and]
  constructor
  · rintro ⟨_, ⟨magnitude, found, rfl⟩, rfl⟩
    exact ⟨magnitude, found, rfl⟩
  · rintro ⟨magnitude, found, rfl⟩
    exact ⟨_, ⟨magnitude, found, rfl⟩, rfl⟩

/-- Multiplying by the power zero of ten changes nothing. -/
theorem magnitude?_whole (significand : ℕ) :
    (Gathered.mk significand 0).magnitude? = Magnitude.ofNat? significand := by
  rcases exists_ofNat?_pow (Nat.zero_le largestPower) with ⟨scale, scale_eq, -⟩
  have scale_units : scale.units = unitsPerOne := by
    simpa using units_of_ofNat?_pow scale_eq (Nat.zero_le 22)
  rcases whole_eq : Magnitude.ofNat? significand with _ | whole
  · simp [Gathered.magnitude?, whole_eq]
  · have product_eq : whole.mul? scale = some whole := by
      apply Magnitude.nearestUnits?_eq_some
      rw [scale_units, Nat.mul_comm]
      exact roundUnits_mul unitsPerOne_pos whole.isRepresentable.2
    have zero_le : 0 ≤ largestPower := Nat.zero_le _
    simp only [Gathered.magnitude?, whole_eq, zero_le, if_true, scale_eq, product_eq,
      Option.bind_eq_bind, Option.bind_some]

/-- An integer is the floating-point number that its digits stand for. -/
theorem givesFloat_wholeNumber_iff {significand : ℕ} (fits : significand ≤ maxUnsigned) :
    GivesFloat (wholeNumber negative significand []) speed ↔
      GivesFloat (finishFloat negative ⟨significand, 0⟩ []) speed := by
  rw [givesFloat_finishFloat_iff, magnitude?_whole]
  have in_range : significand ≤ 2 ^ 64 := fits.trans (by decide)
  rcases Magnitude.exists_ofNat? in_range (by omega) with ⟨magnitude, found, -⟩
  rw [wholeNumber]
  split_ifs with isPositive inRange
  · have isPositive : negative = false := by simpa using isPositive
    have not_below : ¬(significand : ℤ) < 0 := by omega
    simp [GivesFloat, Number.toFloat, nearestFloat, found, isPositive, not_below, eq_comm]
  · have isNegative : negative = true := by simpa using isPositive
    simp [GivesFloat, Number.toFloat, nearestFloat, found, isNegative, inRange.1, eq_comm]
  · have isNegative : negative = true := by simpa using isPositive
    rw [givesFloat_finishFloat_iff, magnitude?_whole, isNegative]

/-- The digits before the point are gathered as far as 64 bits hold them. -/
theorem givesFloat_readNumber_iff {first : Char} {others after : List Char}
    (all_digits : ∀ digit ∈ first :: others, digit.isDigit) (alone : first = '0' → others = [])
    (goes_on : ∀ byte ∈ (Text.encodeUtf8 after).head?, byte = point ∨ isExponentMark byte)
    (isHeld : IsHeldOf held left others (first.toNat - '0'.toNat)) :
    GivesFloat (readNumber negative (Text.encodeUtf8 (first :: others ++ after))) speed ↔
      GivesFloat (readFractionOrTail negative
        ⟨Nat.ofDigitChars 10 held (first.toNat - '0'.toNat), left.length⟩
        (Text.encodeUtf8 after)) speed := by
  have ends := endsDigits_of_point_or_mark goes_on
  rcases List.forall_mem_cons.1 all_digits with ⟨first_digit, others_digits⟩
  have stands_alone : digitOf (UInt8.ofNat first.toNat) = 0 →
      EndsDigits (Text.encodeUtf8 others ++ Text.encodeUtf8 after) := by
    intro isZero
    rw [alone (eq_zero_of_digitOf_eq_zero first_digit isZero)]
    exact ends
  rw [Text.encodeUtf8_append, encodeUtf8_digit_append first_digit,
    readNumber_cons negative (isDigit_ofNat_toNat first_digit) stands_alone,
    digitOf_ofNat_toNat first_digit]
  by_cases left_eq : left = []
  · have others_eq := isHeld.digits_eq
    rw [left_eq, List.append_nil] at others_eq
    rw [others_eq, readWhole_append negative (isHeld.held_digits others_digits) isHeld.fits,
      left_eq, List.length_nil]
    rcases after_eq : Text.encodeUtf8 after with _ | ⟨byte, bytes⟩
    · exact givesFloat_wholeNumber_iff isHeld.fits
    · have isMark := goes_on byte (by rw [after_eq]; rfl)
      have not_digit := ends byte (by rw [after_eq]; rfl)
      simp only [readWhole, not_digit, Bool.false_eq_true, if_false, isMark, if_true]
      rfl
  · rw [isHeld.readWhole_eq others_digits left_eq ends]

end Whole

section Cut

/--
Digits and a power of ten as they are gathered from a number: all of its digits if 64 bits hold
them, and otherwise so many that the number is changed by a very small part of it.
-/
structure Gathered.IsCut (gathered : Gathered) (numeral : Numeral) : Prop where
  fits : gathered.significand ≤ maxUnsigned
  eq_of_le : numeral.significand ≤ maxUnsigned →
    gathered = ⟨numeral.significand, numeral.power - numeral.places⟩
  near : |gathered.value - numeral.value| ≤ numeral.value / 2 ^ 60

theorem IsHeldOf.abs_withFraction_sub_le (isHeld : IsHeldOf held left digits start)
    (all_digits : ∀ digit ∈ digits, digit.isDigit) :
    |withFraction start held - withFraction start digits| ≤ withFraction start digits / 2 ^ 60 := by
  have start_nonneg : (0 : ℚ) ≤ start := Nat.cast_nonneg start
  by_cases left_eq : left = []
  · have digits_eq := isHeld.digits_eq
    rw [left_eq, List.append_nil] at digits_eq
    rw [digits_eq, sub_self, abs_zero, ← digits_eq]
    exact div_nonneg (start_nonneg.trans (withFraction_bounds all_digits start).1) (by norm_num)
  · have near := ScriptedFeed.abs_withFraction_sub_le (by norm_num)
      (isHeld.large all_digits left_eq) (isHeld.left_digits all_digits) (List.forall_mem_nil _)
    have held_eq : withFraction start held =
        withFraction (Nat.ofDigitChars 10 held start) [] / 10 ^ held.length := by
      rw [← withFraction_append, List.append_nil]
    rw [isHeld.digits_eq, withFraction_append, held_eq, ← sub_div, abs_div,
      abs_of_pos (show (0 : ℚ) < 10 ^ held.length by positivity), div_right_comm]
    gcongr
    exact_mod_cast near

section Stages

variable {others more moreLeft : List Char}

/-- The digits that are left out before and after the point hardly change what is gathered. -/
theorem IsHeldOf.abs_withFraction_append_sub_le (isHeld : IsHeldOf held left others start)
    (isHeldMore : IsHeldOf more moreLeft digits (Nat.ofDigitChars 10 held start))
    (others_digits : ∀ digit ∈ others, digit.isDigit)
    (digits_isDigit : ∀ digit ∈ digits, digit.isDigit) :
    |withFraction (Nat.ofDigitChars 10 held start) more -
        withFraction (Nat.ofDigitChars 10 held start) (left ++ digits)| ≤
      withFraction (Nat.ofDigitChars 10 held start) (left ++ digits) / 2 ^ 60 := by
  by_cases left_eq : left = []
  · rw [left_eq, List.nil_append]
    exact isHeldMore.abs_withFraction_sub_le digits_isDigit
  · have left_digits := isHeld.left_digits others_digits
    exact_mod_cast ScriptedFeed.abs_withFraction_sub_le (by norm_num)
      (isHeld.large others_digits left_eq)
      (List.forall_mem_append.2 ⟨left_digits, digits_isDigit⟩)
      (isHeldMore.held_digits digits_isDigit)

/-- Where 64 bits hold the number of all digits, all are gathered. -/
theorem IsHeldOf.eq_of_le (isHeld : IsHeldOf held left others start)
    (isHeldMore : IsHeldOf more moreLeft digits (Nat.ofDigitChars 10 held start))
    (fits : Nat.ofDigitChars 10 (others ++ digits) start ≤ maxUnsigned) :
    left = [] ∧ more = digits := by
  rw [Nat.ofDigitChars_append] at fits
  have left_eq := isHeld.left_eq_nil ((le_ofDigitChars digits _).trans fits)
  have others_eq := isHeld.digits_eq
  rw [left_eq, List.append_nil] at others_eq
  rw [others_eq] at fits
  have digits_eq := isHeldMore.digits_eq
  rw [isHeldMore.left_eq_nil fits, List.append_nil] at digits_eq
  exact ⟨left_eq, digits_eq.symm⟩

/-- What is gathered of the digits before the point, and then of those after it. -/
theorem IsHeldOf.isCut (isHeld : IsHeldOf held left others start)
    (isHeldMore : IsHeldOf more moreLeft digits (Nat.ofDigitChars 10 held start))
    (others_digits : ∀ digit ∈ others, digit.isDigit)
    (digits_isDigit : ∀ digit ∈ digits, digit.isDigit) (power : ℤ) :
    (Gathered.mk (Nat.ofDigitChars 10 more (Nat.ofDigitChars 10 held start))
      (left.length - more.length + power)).IsCut
      ⟨Nat.ofDigitChars 10 (others ++ digits) start, digits.length, power⟩ := by
  refine ⟨isHeldMore.fits, ?_, ?_⟩
  · intro fits
    rcases isHeld.eq_of_le isHeldMore fits with ⟨rfl, rfl⟩
    rw [isHeld.digits_eq, List.append_nil, Nat.ofDigitChars_append]
    simp [sub_eq_neg_add, add_comm]
  · have near := isHeld.abs_withFraction_append_sub_le isHeldMore others_digits digits_isDigit
    have others_eq : Nat.ofDigitChars 10 (others ++ digits) start =
        Nat.ofDigitChars 10 (left ++ digits) (Nat.ofDigitChars 10 held start) := by
      rw [isHeld.digits_eq, List.append_assoc, Nat.ofDigitChars_append]
    rw [others_eq]
    generalize Nat.ofDigitChars 10 held start = whole at near
    have gathered_eq : (Gathered.mk (Nat.ofDigitChars 10 more whole)
        (left.length - more.length + power)).value =
          withFraction whole more * 10 ^ (left.length + power) := by
      rw [withFraction_mul_zpow, Gathered.value, sub_add_eq_add_sub]
    have numeral_eq : (Numeral.mk (Nat.ofDigitChars 10 (left ++ digits) whole) digits.length
        power).value = withFraction whole (left ++ digits) * 10 ^ (left.length + power) := by
      rw [withFraction_mul_zpow, Numeral.value, List.length_append, Nat.cast_add,
        add_sub_add_left_eq_sub]
    have scale_pos : (0 : ℚ) < 10 ^ (left.length + power) := by positivity
    rw [gathered_eq, numeral_eq, ← sub_mul, abs_mul, abs_of_pos scale_pos, mul_div_right_comm]
    exact mul_le_mul_of_nonneg_right near scale_pos.le

end Stages

/-- A number is read as what is gathered from its digits, unless its power of ten is too large. -/
theorem exists_isCut (spells : SpellsNumeral text numeral) : ∃ gathered : Gathered,
    gathered.IsCut numeral ∧
    (numeral.power.natAbs < 2 ^ 31 → ∀ negative speed,
      GivesFloat (readNumber negative (Text.encodeUtf8 text)) speed ↔
        ∃ magnitude, gathered.magnitude? = some magnitude ∧ speed = .finite negative magnitude) ∧
    (2 ^ 31 ≤ numeral.power.natAbs → ∀ negative speed,
      GivesFloat (readNumber negative (Text.encodeUtf8 text)) speed →
        speed = .finite negative .zero) := by
  rcases spells with ⟨all_digits, alone, isFraction, isPower⟩
  next first others fraction digits powerText power =>
  have bounds := isDigit_iff_bounds.1 (all_digits first List.mem_cons_self)
  have first_le : first.toNat - '0'.toNat ≤ maxUnsigned := by
    rw [maxUnsigned]
    omega
  rcases exists_isHeldOf others first_le with ⟨held, left, isHeld⟩
  rcases exists_isHeldOf digits isHeld.fits with ⟨more, moreLeft, isHeldMore⟩
  have isCut := isHeld.isCut isHeldMore (List.forall_mem_cons.1 all_digits).2
    isFraction.all_digits power
  have read_iff (negative : Bool) (speed : Binary64) :
      GivesFloat (readNumber negative
          (Text.encodeUtf8 (first :: others ++ (fraction ++ powerText)))) speed ↔
        GivesFloat (readTail negative
          ⟨Nat.ofDigitChars 10 more (Nat.ofDigitChars 10 held (first.toNat - '0'.toNat)),
            left.length - more.length⟩ (Text.encodeUtf8 powerText)) speed := by
    rw [givesFloat_readNumber_iff all_digits alone (point_or_mark_of_mem_head? isFraction isPower)
      isHeld, readFractionOrTail_eq isFraction isPower isHeldMore]
  rw [List.cons_append, Nat.ofDigitChars_cons, Nat.mul_zero, Nat.zero_add]
  refine ⟨_, isCut, ?_, ?_⟩
  · intro inRange negative speed
    rw [read_iff, readTail_of_lt isPower inRange, givesFloat_finishFloat_iff]
  · intro beyond negative speed gives
    rcases (read_iff negative speed).1 gives with ⟨number, read, rfl⟩
    rw [eq_zero_of_readTail isPower beyond read]
    rfl

end Cut

end Json

end ScriptedFeed
