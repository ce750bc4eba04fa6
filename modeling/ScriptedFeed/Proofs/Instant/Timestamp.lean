import ScriptedFeed.Instant.Timestamp
import ScriptedFeed.Proofs.Instant.Calendar
import ScriptedFeed.Proofs.Number.Digits

/-!
# Instants are read back from their timestamps

Reading a timestamp takes one part after another from the front, and leaves what comes after it. A
number with a fixed count of digits ends by itself; the year and the fraction end because no digit
comes after them. What the parts name is the instant that was written: the date is taken back to its
day, and the sixtieth second to the leap second in which the nanosecond lies.
-/

namespace ScriptedFeed

namespace Instant

variable {digits rest : List Char} {first character : Char} {number : Nat}

section Numbers

/-- No digit comes first. -/
def EndsDigits (text : List Char) : Prop :=
  ∀ character ∈ text.head?, character.isDigit = false

theorem endsDigits_cons (not_digit : character.isDigit = false) (rest : List Char) :
    EndsDigits (character :: rest) := by
  rintro _ ⟨⟩
  exact not_digit

theorem takeWhile_append_of_endsDigits (all_digits : ∀ digit ∈ digits, digit.isDigit)
    (ends : EndsDigits rest) : (digits ++ rest).takeWhile Char.isDigit = digits := by
  rw [List.takeWhile_append_of_pos all_digits]
  cases rest with
  | nil => simp
  | cons character rest =>
      have not_digit := ends character rfl
      simp [not_digit]

theorem dropWhile_isDigit_of_endsDigits (ends : EndsDigits rest) :
    rest.dropWhile Char.isDigit = rest := by
  cases rest with
  | nil => rfl
  | cons character rest =>
      have not_digit := ends character rfl
      simp [not_digit]

theorem EndsDigits.take (ends : EndsDigits rest) (count : Nat) : EndsDigits (rest.take count) := by
  cases count with
  | zero => simp [EndsDigits]
  | succ count =>
      cases rest with
      | nil => simp [EndsDigits]
      | cons character rest => exact ends

/-- Digits are read as their number up to where they end, or where their count is reached. -/
theorem readNumber_append {most : Nat} (not_empty : digits ≠ [])
    (all_digits : ∀ digit ∈ digits, digit.isDigit) (length_le : digits.length ≤ most)
    (ends : EndsDigits (rest.take (most - digits.length)))
    (fits : Nat.ofDigitChars 10 digits 0 ≤ maxSigned) :
    readNumber most (digits ++ rest) = .ok (Nat.ofDigitChars 10 digits 0, rest) := by
  have taken : ((digits ++ rest).take most).takeWhile Char.isDigit = digits := by
    rw [List.take_append, List.take_of_length_le length_le]
    exact takeWhile_append_of_endsDigits all_digits ends
  rcases List.exists_cons_of_ne_nil not_empty with ⟨first, others, rfl⟩
  have first_digit := all_digits first List.mem_cons_self
  rw [List.cons_append] at taken ⊢
  simp only [readNumber, taken, first_digit, readDigitsFrom_eq all_digits fits, Bool.not_true,
    Bool.false_eq_true, if_false]
  rw [← List.cons_append, List.drop_left]

theorem readNumber_paddedDigits {length : Nat} (positive : 0 < length)
    (fits : number < 10 ^ length) (number_le : number ≤ maxSigned) (rest : List Char) :
    readNumber length (paddedDigits length number ++ rest) = .ok (number, rest) := by
  have length_eq := length_paddedDigits positive fits
  have ends : EndsDigits (rest.take (length - (paddedDigits length number).length)) := by
    simp [length_eq, EndsDigits]
  have read := readNumber_append (paddedDigits_ne_nil length number)
    (fun _ => isDigit_of_mem_paddedDigits) length_eq.le ends (by rwa [ofDigitChars_paddedDigits])
  rwa [ofDigitChars_paddedDigits] at read

/-- However many digits there are, they are read if all of what follows may be digits. -/
theorem readNumber_length_paddedDigits {length : Nat} (number_le : number ≤ maxSigned)
    (ends : EndsDigits rest) :
    readNumber (paddedDigits length number ++ rest).length (paddedDigits length number ++ rest) =
      .ok (number, rest) := by
  have fits : Nat.ofDigitChars 10 (paddedDigits length number) 0 ≤ maxSigned := by
    rwa [ofDigitChars_paddedDigits]
  have read := readNumber_append (paddedDigits_ne_nil length number)
    (fun _ => isDigit_of_mem_paddedDigits)
    (by simp : _ ≤ (paddedDigits length number ++ rest).length) (ends.take _) fits
  rwa [ofDigitChars_paddedDigits] at read

end Numbers

section Parts

theorem trimStart_cons (not_blank : Text.isBlank character = false) :
    Text.trimStart (character :: rest) = character :: rest := by
  rw [Text.trimStart, List.dropWhile_cons_of_neg (by simp [not_blank])]

theorem exists_paddedDigits_eq_cons (length number : Nat) :
    ∃ first others, paddedDigits length number = first :: others ∧ first.isDigit := by
  rcases List.exists_cons_of_ne_nil (paddedDigits_ne_nil length number) with ⟨first, others, eq⟩
  refine ⟨first, others, eq, ?_⟩
  apply isDigit_of_mem_paddedDigits
  rw [eq]
  exact List.mem_cons_self

theorem trimStart_paddedDigits (length number : Nat) (rest : List Char) :
    Text.trimStart (paddedDigits length number ++ rest) = paddedDigits length number ++ rest := by
  rcases exists_paddedDigits_eq_cons length number with ⟨first, others, digits_eq, isDigit⟩
  rw [digits_eq, List.cons_append, trimStart_cons (Text.isBlank_of_isDigit isDigit)]

theorem readField_paddedDigits {least greatest : Nat} (fits : greatest < 100)
    (inRange : least ≤ number ∧ number ≤ greatest) (rest : List Char) :
    readField least greatest (paddedDigits 2 number ++ rest) = .ok (number, rest) := by
  have read : readNumber 2 (paddedDigits 2 number ++ rest) = .ok (number, rest) :=
    readNumber_paddedDigits (by omega) (by omega) (by rw [maxSigned]; omega) rest
  rw [readField, trimStart_paddedDigits, read, except_ok_bind]
  exact if_pos inRange

theorem readSeparator_cons (not_blank : Text.isBlank character = false) (rest : List Char) :
    readSeparator character (character :: rest) = .ok ((), rest) := by
  rw [readSeparator, trimStart_cons not_blank]
  exact if_pos rfl

section Year

variable {year : Int}

/-- A digit is no sign, so at most four digits are read as they stand. -/
theorem readYear_of_isDigit {others : List Char} (isDigit : first.isDigit)
    (read : readNumber 4 (first :: others) = .ok (number, rest)) (year_eq : Int.ofNat number = year)
    (inRange : -0x80000000 ≤ year ∧ year < 0x80000000) :
    readYear (first :: others) = .ok (year, rest) := by
  have not_minus : first ≠ '-' := by
    rintro rfl
    exact absurd isDigit (by decide)
  have not_plus : first ≠ '+' := by
    rintro rfl
    exact absurd isDigit (by decide)
  rw [readYear, trimStart_cons (Text.isBlank_of_isDigit isDigit)]
  simp only [List.cons.injEq, not_minus, not_plus, false_and, imp_false, not_false_eq_true,
    implies_true]
  refine bind_eq_ok_iff.2 ⟨(number, rest), read, ?_⟩
  -- The bounds are checked of the year itself: in terms of the number they would be computed.
  refine bind_eq_ok_iff.2 ⟨(year, rest), ?_, if_pos inRange⟩
  rw [year_eq, except_pure]

/-- The years that instants are kept for are read back. -/
theorem readYear_yearText (first_le : Date.firstYear ≤ year) (le_last : year ≤ Date.lastYear)
    (ends : EndsDigits rest) : readYear (yearText year ++ rest) = .ok (year, rest) := by
  rw [Date.firstYear] at first_le
  rw [Date.lastYear] at le_last
  have natAbs_le : year.natAbs ≤ maxSigned := by
    rw [maxSigned]
    omega
  have read := @readNumber_length_paddedDigits _ _ 4 natAbs_le ends
  have inRange : -0x80000000 ≤ year ∧ year < 0x80000000 := by omega
  unfold yearText
  split_ifs with hasFourDigits isNegative
  · have read : readNumber 4 (paddedDigits 4 year.toNat ++ rest) = .ok (year.toNat, rest) :=
      readNumber_paddedDigits (by omega) (by omega) (by omega) rest
    rcases exists_paddedDigits_eq_cons 4 year.toNat with ⟨first, others, digits_eq, isDigit⟩
    rw [digits_eq, List.cons_append] at read ⊢
    apply readYear_of_isDigit isDigit read
    · exact Int.toNat_of_nonneg hasFourDigits.1
    · exact inRange
  · have year_eq : -Int.ofNat year.natAbs = year := by
      rw [Int.ofNat_eq_natCast]
      omega
    rw [List.cons_append, readYear, trimStart_cons (by decide)]
    refine bind_eq_ok_iff.2 ⟨(year.natAbs, rest), read, ?_⟩
    refine bind_eq_ok_iff.2 ⟨(year, rest), ?_, if_pos inRange⟩
    rw [year_eq, except_pure]
  · have year_eq : Int.ofNat year.natAbs = year := by
      rw [Int.ofNat_eq_natCast]
      omega
    rw [List.cons_append, readYear, trimStart_cons (by decide)]
    refine bind_eq_ok_iff.2 ⟨(year.natAbs, rest), read, ?_⟩
    refine bind_eq_ok_iff.2 ⟨(year, rest), ?_, if_pos inRange⟩
    rw [year_eq, except_pure]

end Year

section Fraction

/-- At most nine digits after the point are read as nanoseconds. -/
theorem readFraction_paddedDigits {length : Nat} (positive : 0 < length) (length_le : length ≤ 9)
    (fits : number < 10 ^ length) (ends : EndsDigits rest) :
    readFraction ('.' :: paddedDigits length number ++ rest) =
      .ok (number * 10 ^ (9 - length), rest) := by
  have length_eq := length_paddedDigits positive fits
  have number_le : number ≤ maxSigned := by
    have pow_le : 10 ^ length ≤ 10 ^ 9 := Nat.pow_le_pow_right (by omega) length_le
    rw [maxSigned]
    omega
  have read := readNumber_append (paddedDigits_ne_nil length number)
    (fun _ => isDigit_of_mem_paddedDigits) (length_eq.le.trans length_le) (ends.take _)
    (by rwa [ofDigitChars_paddedDigits])
  rw [ofDigitChars_paddedDigits] at read
  simp only [readFraction, List.cons_append, read, except_ok_bind, List.length_append, length_eq,
    Nat.add_sub_cancel, dropWhile_isDigit_of_endsDigits ends]
  rfl

theorem readFraction_fractionText (fits : number < nanosecondsPerSecond) (ends : EndsDigits rest)
    (no_point : ∀ others, rest ≠ '.' :: others) :
    readFraction (fractionText number ++ rest) = .ok (number, rest) := by
  rw [nanosecondsPerSecond] at fits
  unfold fractionText
  split_ifs with isZero millis micros
  · rw [isZero, List.nil_append]
    unfold readFraction
    split
    · exact absurd rfl (no_point _)
    · rfl
  · rw [readFraction_paddedDigits (by omega) (by omega) (by omega) ends]
    congr 2
    omega
  · rw [readFraction_paddedDigits (by omega) (by omega) (by omega) ends]
    congr 2
    omega
  · rw [readFraction_paddedDigits (by omega) (by omega) (by omega) ends]
    congr 2
    omega

end Fraction

end Parts

section Fields

variable (instant : Instant)

theorem secondOfDay_lt : instant.secondOfDay < 86400 := by
  rw [secondOfDay, secondsPerDay]
  omega

theorem hour_le : instant.hour ≤ 23 := by
  have secondOfDay_lt := instant.secondOfDay_lt
  rw [hour]
  omega

theorem minute_le : instant.minute ≤ 59 := by
  rw [minute]
  omega

theorem toDays_date : instant.date.toDays = instant.seconds / secondsPerDay :=
  Date.toDays_ofDays _

theorem isValid_date : instant.date.isValid := by
  rcases instant.isInstant with ⟨earliest_le, le_latest, -, -⟩
  rw [earliestSecond, secondsPerDay] at earliest_le
  rw [latestSecond, secondsPerDay] at le_latest
  apply Date.isValid_ofDays
  · rw [secondsPerDay]
    omega
  · rw [secondsPerDay]
    omega

theorem secondOfDay_mod_of_isInLeapSecond (isLeap : instant.isInLeapSecond) :
    instant.secondOfDay % 60 = 59 := by
  rcases instant.isInstant with ⟨-, -, -, leap⟩
  have seconds_mod := leap (by simpa [isInLeapSecond] using isLeap)
  rw [secondOfDay, secondsPerDay]
  omega

theorem second_eq_sixty_iff : instant.second = 60 ↔ instant.isInLeapSecond := by
  rw [second]
  cases isLeap : instant.isInLeapSecond with
  | false =>
      simp only [Bool.false_eq_true, if_false, iff_false]
      omega
  | true => simp [secondOfDay_mod_of_isInLeapSecond instant isLeap]

theorem second_le : instant.second ≤ 60 := by
  rw [second]
  split_ifs <;> omega

/-- The time of day is put together again; a leap second counts as the second before it. -/
theorem secondOfDay_eq : instant.hour * 3600 + instant.minute * 60 +
    (if instant.second = 60 then 59 else instant.second) = instant.secondOfDay := by
  have second_eq : (if instant.second = 60 then 59 else instant.second) =
      instant.secondOfDay % 60 := by
    simp only [second_eq_sixty_iff]
    split_ifs with isLeap
    · exact (secondOfDay_mod_of_isInLeapSecond instant isLeap).symm
    · simp [second, isLeap]
  rw [second_eq, hour, minute]
  omega

theorem nanosecond_eq : (if instant.second = 60 then instant.fraction + nanosecondsPerSecond
    else instant.fraction) = instant.nanosecond := by
  simp only [second_eq_sixty_iff, fraction]
  split_ifs with isLeap
  · rw [isInLeapSecond, decide_eq_true_eq] at isLeap
    exact Nat.sub_add_cancel isLeap
  · rfl

theorem fraction_lt : instant.fraction < nanosecondsPerSecond := by
  rcases instant.isInstant with ⟨-, -, nanosecond_lt, -⟩
  rw [fraction, isInLeapSecond]
  split_ifs with isLeap
  · omega
  · simpa using isLeap

/-- The fields that an instant is written with name it. -/
theorem ofFields_eq :
    ofFields instant.date instant.secondOfDay instant.nanosecond 0 = .ok instant := by
  have seconds_eq : instant.date.toDays * secondsPerDay + instant.secondOfDay - 0 =
      instant.seconds := by
    rw [toDays_date, secondOfDay, secondsPerDay]
    omega
  have found : ofCounts? instant.seconds instant.nanosecond = some instant :=
    dif_pos instant.isInstant
  have offset_small : ¬ secondsPerDay ≤ (0 : Int).natAbs := by decide
  simp only [ofFields, isValid_date, offset_small, seconds_eq, found, Bool.not_true,
    Bool.false_eq_true, if_false]

end Fields

/-- The timestamp of an instant names that instant. -/
theorem ofTimestamp_timestamp (instant : Instant) :
    ofTimestamp instant.timestamp.toList = .ok instant := by
  have valid := instant.isValid_date
  simp only [Date.isValid, Bool.and_eq_true, decide_eq_true_eq] at valid
  rcases valid with ⟨⟨⟨⟨⟨first_le, le_last⟩, month_pos⟩, month_le⟩, day_pos⟩, day_le⟩
  have day_le := day_le.trans (Date.daysInMonth_le _ _)
  have read_year (rest : List Char) : readYear (yearText instant.date.year ++ '-' :: rest) =
      .ok (instant.date.year, '-' :: rest) :=
    readYear_yearText first_le le_last (endsDigits_cons (by decide) rest)
  have read_dash : ∀ rest, readSeparator '-' ('-' :: rest) = .ok ((), rest) :=
    readSeparator_cons (by decide)
  have read_colon : ∀ rest, readSeparator ':' (':' :: rest) = .ok ((), rest) :=
    readSeparator_cons (by decide)
  have read_divider (rest : List Char) : readDivider ('T' :: rest) = .ok ((), rest) := rfl
  have read_month := @readField_paddedDigits _ 1 12 (by decide) ⟨month_pos, month_le⟩
  have read_day := @readField_paddedDigits _ 1 31 (by decide) ⟨day_pos, day_le⟩
  have read_hour := @readField_paddedDigits _ 0 23 (by decide) ⟨Nat.zero_le _, instant.hour_le⟩
  have read_minute := @readField_paddedDigits _ 0 59 (by decide) ⟨Nat.zero_le _, instant.minute_le⟩
  have read_second := @readField_paddedDigits _ 0 60 (by decide) ⟨Nat.zero_le _, instant.second_le⟩
  have read_fraction : readFraction (fractionText instant.fraction ++ ['Z']) =
      .ok (instant.fraction, ['Z']) :=
    readFraction_fractionText instant.fraction_lt (endsDigits_cons (by decide) []) (by simp)
  have read_offset : readOffset (Text.trimStart ['Z']) = .ok (0, []) := by decide
  have at_end : (Text.trimStart []).isEmpty := rfl
  simp only [ofTimestamp, timestamp, String.toList_ofList, List.append_assoc, List.cons_append,
    except_ok_bind, read_year, read_dash, read_month, read_day, read_divider, read_hour, read_colon,
    read_minute, read_second, read_fraction, read_offset, at_end, Bool.not_true,
    Bool.false_eq_true, if_false]
  rw [secondOfDay_eq, nanosecond_eq]
  exact ofFields_eq instant

end Instant

end ScriptedFeed
