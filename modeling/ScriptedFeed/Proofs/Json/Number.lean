import ScriptedFeed.Json.Number
import ScriptedFeed.Proofs.Number.Digits
import ScriptedFeed.Proofs.Text.Utf8

/-!
# Integers of a document are read back as they were written

A number without point and power of ten is gathered digit by digit, as far as 64 bits reach, up to
a byte that does not continue it. As written by the program, no zero stands before other digits.
-/

namespace ScriptedFeed

namespace Json

variable {number significand : Nat} {digit : Char} {digits : List Char}
  {rest : List UInt8}

/-- What follows a number starts with no byte that would continue it. -/
def EndsNumber (rest : List UInt8) : Prop :=
  ∀ byte ∈ rest.head?, isDigit byte = false ∧ byte ≠ point ∧ isExponentMark byte = false

section Digits

theorem toNat_ofNat_of_isDigit (isDigit : digit.isDigit) :
    (UInt8.ofNat digit.toNat).toNat = digit.toNat := by
  have bounds := isDigit_iff_bounds.1 isDigit
  rw [UInt8.toNat_ofNat', Nat.mod_eq_of_lt (by omega)]

theorem utf8EncodeChar_of_isDigit (isDigit : digit.isDigit) :
    String.utf8EncodeChar digit = [UInt8.ofNat digit.toNat] := by
  have bounds := isDigit_iff_bounds.1 isDigit
  exact Text.utf8EncodeChar_of_lt (by omega)

theorem encodeUtf8_digit (isDigit : digit.isDigit) (digits : List Char) :
    Text.encodeUtf8 (digit :: digits) = UInt8.ofNat digit.toNat :: Text.encodeUtf8 digits := by
  rw [Text.encodeUtf8_cons, utf8EncodeChar_of_isDigit isDigit, List.singleton_append]

theorem encodeUtf8_digit_append (isDigit : digit.isDigit) (digits : List Char)
    (rest : List UInt8) :
    Text.encodeUtf8 (digit :: digits) ++ rest =
      UInt8.ofNat digit.toNat :: (Text.encodeUtf8 digits ++ rest) := by
  rw [encodeUtf8_digit isDigit, List.cons_append]

theorem isDigit_ofNat_toNat (isDigit : digit.isDigit) :
    Json.isDigit (UInt8.ofNat digit.toNat) = true := by
  have bounds := isDigit_iff_bounds.1 isDigit
  simp only [Json.isDigit, UInt8.le_iff_toNat_le, toNat_ofNat_of_isDigit isDigit]
  simpa using bounds

theorem digitOf_ofNat_toNat (isDigit : digit.isDigit) :
    digitOf (UInt8.ofNat digit.toNat) = digit.toNat - '0'.toNat := by
  rw [digitOf, toNat_ofNat_of_isDigit isDigit]
  rfl

end Digits

section Reading

/-- What follows some digits starts with no further digit. -/
def EndsDigits (rest : List UInt8) : Prop :=
  ∀ byte ∈ rest.head?, isDigit byte = false

theorem EndsNumber.endsDigits (ends : EndsNumber rest) : EndsDigits rest :=
  fun byte byte_mem => (ends byte byte_mem).1

theorem readWhole_append (negative : Bool) (all_digits : ∀ digit ∈ digits, digit.isDigit)
    (fits : Nat.ofDigitChars 10 digits significand ≤ maxUnsigned) (rest : List UInt8) :
    readWhole negative significand (Text.encodeUtf8 digits ++ rest) =
      readWhole negative (Nat.ofDigitChars 10 digits significand) rest := by
  induction digits generalizing significand with
  | nil => rfl
  | cons digit digits ih =>
      rcases List.forall_mem_cons.1 all_digits with ⟨isDigit, others_digits⟩
      rw [Nat.ofDigitChars_cons, Nat.mul_comm] at fits ⊢
      have not_beyond := Nat.not_lt.2 ((le_ofDigitChars digits _).trans fits)
      rw [encodeUtf8_digit_append isDigit]
      simp only [readWhole, isDigit_ofNat_toNat isDigit, digitOf_ofNat_toNat isDigit, not_beyond,
        if_true, if_false]
      exact ih others_digits fits

theorem readWhole_of_endsNumber (negative : Bool) (significand : Nat) (ends : EndsNumber rest) :
    readWhole negative significand rest = wholeNumber negative significand rest := by
  cases rest with
  | nil => rfl
  | cons byte rest =>
      rcases ends byte rfl with ⟨not_digit, not_point, not_exponent⟩
      simp [readWhole, not_digit, not_point, not_exponent]

theorem eq_zero_of_digitOf_eq_zero (isDigit : digit.isDigit)
    (isZero : digitOf (UInt8.ofNat digit.toNat) = 0) : digit = '0' := by
  have bounds := isDigit_iff_bounds.1 isDigit
  rw [digitOf_ofNat_toNat isDigit] at isZero
  rw [← Char.toNat_inj]
  exact le_antisymm (Nat.sub_eq_zero_iff_le.1 isZero) bounds.1

/-- After a leading zero no further digit is read. -/
theorem readNumber_cons (negative : Bool) {first : UInt8} (first_digit : isDigit first)
    (alone : digitOf first = 0 → EndsDigits rest) :
    readNumber negative (first :: rest) = readWhole negative (digitOf first) rest := by
  simp only [readNumber, first_digit, Bool.not_true, Bool.false_eq_true, if_false]
  cases rest with
  | nil => rfl
  | cons second rest =>
      have not_leading : ¬(digitOf first = 0 ∧ isDigit second = true) := by
        rintro ⟨isZero, second_digit⟩
        rw [alone isZero second rfl] at second_digit
        cases second_digit
      simp only [not_leading, if_false]

theorem exists_cons_of_readNumber {negative : Bool} {bytes : List UInt8} {number : Number}
    (read : readNumber negative bytes = .ok (number, rest)) :
    ∃ first others, bytes = first :: others ∧ isDigit first ∧
      (digitOf first = 0 → EndsDigits others) ∧
      readWhole negative (digitOf first) others = .ok (number, rest) := by
  rcases bytes with _ | ⟨first, others⟩
  · cases read
  by_cases first_digit : isDigit first
  · refine ⟨first, others, rfl, first_digit, ?_⟩
    simp only [readNumber, first_digit, Bool.not_true, Bool.false_eq_true, if_false] at read
    rcases others with _ | ⟨second, others⟩
    · exact ⟨nofun, read⟩
    · simp only at read
      split_ifs at read with isLeading
      refine ⟨?_, read⟩
      rintro isZero _ ⟨⟩
      exact Bool.eq_false_iff.2 fun second_digit => isLeading ⟨isZero, second_digit⟩
  · simp [readNumber, first_digit] at read

/-- Digits among which no zero stands before others are gathered up to where they end. -/
theorem readNumber_append (negative : Bool) {first : Char} {others : List Char}
    (all_digits : ∀ digit ∈ first :: others, digit.isDigit)
    (alone : first = '0' → others = [])
    (fits : Nat.ofDigitChars 10 (first :: others) 0 ≤ maxUnsigned) (ends : EndsDigits rest) :
    readNumber negative (Text.encodeUtf8 (first :: others) ++ rest) =
      readWhole negative (Nat.ofDigitChars 10 (first :: others) 0) rest := by
  rcases List.forall_mem_cons.1 all_digits with ⟨first_digit, others_digits⟩
  rw [Nat.ofDigitChars_cons, Nat.mul_zero, Nat.zero_add] at fits ⊢
  have stands_alone : digitOf (UInt8.ofNat first.toNat) = 0 →
      EndsDigits (Text.encodeUtf8 others ++ rest) := by
    intro isZero
    rw [alone (eq_zero_of_digitOf_eq_zero first_digit isZero)]
    exact ends
  rw [encodeUtf8_digit_append first_digit,
    readNumber_cons negative (isDigit_ofNat_toNat first_digit) stands_alone,
    digitOf_ofNat_toNat first_digit]
  exact readWhole_append negative others_digits fits rest

/-- The digits of a number are read up to where they end, if 64 bits hold the number. -/
theorem readNumber_decimalDigits (negative : Bool) (fits : number ≤ maxUnsigned)
    (ends : EndsNumber rest) :
    readNumber negative (Text.encodeUtf8 (decimalDigits number) ++ rest) =
      wholeNumber negative number rest := by
  rcases exists_decimalDigits_eq number with
    ⟨first, others, digits_eq, all_digits, alone, number_eq⟩
  rw [digits_eq, readNumber_append negative all_digits alone (by rwa [number_eq]) ends.endsDigits,
    number_eq]
  exact readWhole_of_endsNumber negative number ends

end Reading

section Exactness

variable {negative : Bool} {gathered : Gathered} {bytes : List UInt8} {value : Int}

theorem finishFloat_ne_integer {others : List UInt8} :
    finishFloat negative gathered others ≠ .ok (.integer value, rest) := by
  rw [finishFloat]
  cases gathered.magnitude? <;> simp [finishMagnitude]

theorem readExponent_ne_integer :
    readExponent negative gathered bytes ≠ .ok (.integer value, rest) := by
  simp only [readExponent]
  split
  · simp
  · next byte others _ =>
    by_cases no_digit : (!isDigit byte) = true
    · rw [if_pos no_digit]
      simp
    · rw [if_neg no_digit]
      cases readExponentDigits (digitOf byte) others with
      | inRange exponent after => exact finishFloat_ne_integer
      | beyond after =>
          simp only
          split_ifs <;> simp

theorem readTail_ne_integer : readTail negative gathered bytes ≠ .ok (.integer value, rest) := by
  rw [readTail.eq_def]
  split
  · exact finishFloat_ne_integer
  · split_ifs
    · exact readExponent_ne_integer
    · exact finishFloat_ne_integer

/-- What has a point or a power of ten, or more digits than are gathered, is no integer. -/
theorem readFractionOrTail_ne_integer :
    readFractionOrTail negative gathered bytes ≠ .ok (.integer value, rest) := by
  rw [readFractionOrTail.eq_def]
  split
  · exact finishFloat_ne_integer
  · split_ifs
    · rw [readFraction.eq_def]
      split
      · simp
      · split_ifs
        · exact readTail_ne_integer
        · simp
    · exact readTail_ne_integer

theorem exists_digit_of_isDigit {byte : UInt8} (isDigit : Json.isDigit byte) :
    ∃ digit : Char, digit.isDigit ∧ byte = UInt8.ofNat digit.toNat := by
  simp only [Json.isDigit, Bool.and_eq_true, decide_eq_true_eq, UInt8.le_iff_toNat_le,
    UInt8.reduceToNat] at isDigit
  have toNat_eq : (Char.ofNat byte.toNat).toNat = byte.toNat :=
    Text.toNat_ofNat_of_valid (by omega)
  refine ⟨Char.ofNat byte.toNat, isDigit_iff_bounds.2 ?_, ?_⟩
  · rwa [toNat_eq]
  · rw [toNat_eq, UInt8.ofNat_toNat]

theorem eq_rest_of_wholeNumber {others : List UInt8}
    (whole_eq : wholeNumber negative significand others = .ok (.integer value, rest)) :
    others = rest := by
  rw [wholeNumber] at whole_eq
  split_ifs at whole_eq
  · cases whole_eq
    rfl
  · cases whole_eq
    rfl
  · exact absurd whole_eq finishFloat_ne_integer

theorem natAbs_of_wholeNumber {others : List UInt8}
    (whole_eq : wholeNumber negative significand others = .ok (.integer value, rest)) :
    value.natAbs = significand ∧ (negative = true ↔ value < 0) := by
  rw [wholeNumber] at whole_eq
  split_ifs at whole_eq with isPositive inRange
  · cases whole_eq
    have isPositive : negative = false := by simpa using isPositive
    simp [isPositive]
  · cases whole_eq
    have isNegative : negative = true := by simpa using isPositive
    simp only [isNegative, true_iff]
    omega
  · exact absurd whole_eq finishFloat_ne_integer

/-- An integer is gathered from further digits and from nothing else. -/
theorem exists_digits_of_readWhole
    (read : readWhole negative significand bytes = .ok (.integer value, rest)) :
    ∃ digits, (∀ digit ∈ digits, digit.isDigit) ∧ bytes = Text.encodeUtf8 digits ++ rest ∧
      wholeNumber negative (Nat.ofDigitChars 10 digits significand) rest =
        .ok (.integer value, rest) := by
  induction bytes generalizing significand with
  | nil =>
      rw [readWhole] at read
      have rest_eq := eq_rest_of_wholeNumber read
      exact ⟨[], by simp, rest_eq, by simpa [rest_eq] using read⟩
  | cons byte bytes ih =>
      rw [readWhole] at read
      split_ifs at read with isDigit isBeyond isPoint
      · exact absurd read readFractionOrTail_ne_integer
      · rcases ih read with ⟨digits, all_digits, rfl, whole_eq⟩
        rcases exists_digit_of_isDigit isDigit with ⟨digit, digit_isDigit, rfl⟩
        refine ⟨digit :: digits, List.forall_mem_cons.2 ⟨digit_isDigit, all_digits⟩, ?_, ?_⟩
        · rw [encodeUtf8_digit_append digit_isDigit]
        · rwa [Nat.ofDigitChars_cons, Nat.mul_comm, ← digitOf_ofNat_toNat digit_isDigit]
      · exact absurd read readFractionOrTail_ne_integer
      · have rest_eq := eq_rest_of_wholeNumber read
        exact ⟨[], by simp, rest_eq, by simpa [rest_eq] using read⟩

/-- An integer is read from its own digits only, and after a minus if it is below zero. -/
theorem eq_append_of_readNumber (read : readNumber negative bytes = .ok (.integer value, rest)) :
    bytes = Text.encodeUtf8 (decimalDigits value.natAbs) ++ rest ∧
      (negative = true ↔ value < 0) := by
  rcases exists_cons_of_readNumber read with
    ⟨byte, bytes, rfl, byte_digit, no_second, whole_read⟩
  rcases exists_digit_of_isDigit byte_digit with ⟨first, first_digit, rfl⟩
  rcases exists_digits_of_readWhole whole_read with ⟨others, others_digits, rfl, whole_eq⟩
  rcases natAbs_of_wholeNumber whole_eq with ⟨natAbs_eq, isNegative⟩
  have alone : first = '0' → others = [] := by
    intro isZero
    rcases others with _ | ⟨second, others⟩
    · rfl
    · have second_digit := isDigit_ofNat_toNat (List.forall_mem_cons.1 others_digits).1
      rw [encodeUtf8_digit_append (List.forall_mem_cons.1 others_digits).1] at no_second
      rw [no_second (by rw [isZero]; rfl) _ rfl] at second_digit
      cases second_digit
  have digits_eq := decimalDigits_ofDigitChars
    (List.forall_mem_cons.2 ⟨first_digit, others_digits⟩) alone
  rw [Nat.ofDigitChars_cons, Nat.mul_zero, Nat.zero_add, ← digitOf_ofNat_toNat first_digit,
    ← natAbs_eq] at digits_eq
  refine ⟨?_, isNegative⟩
  rw [digits_eq, encodeUtf8_digit_append first_digit]

end Exactness

end Json

end ScriptedFeed
