import Mathlib.Tactic
import ScriptedFeed.Json.Fault
import ScriptedFeed.Text.Blank

/-!
# Integers are read back from their digits

The decimal digits of a number are what reading from the left gathers into that number. On the way
no part is larger than the whole, so a bound that holds for the number is never passed. The first
digit is zero for the number zero only.
-/

namespace ScriptedFeed

variable {number bound start : Nat} {digit first : Char} {digits others : List Char}

theorem isDigit_iff_bounds : digit.isDigit ↔ 48 ≤ digit.toNat ∧ digit.toNat ≤ 57 :=
  Char.isDigit_iff_toNat

theorem Text.isBlank_of_isDigit (isDigit : digit.isDigit) : isBlank digit = false := by
  have bounds := isDigit_iff_bounds.1 isDigit
  simp [isBlank, blankRanges, CodeRanges.contains]
  omega

section Result

variable {ε α β : Type}

@[simp]
theorem except_ok_bind (value : α) (next : α → Except ε β) :
    Except.ok value >>= next = next value :=
  rfl

@[simp]
theorem except_error_bind (error : ε) (next : α → Except ε β) :
    Except.error error >>= next = Except.error error :=
  rfl

@[simp]
theorem except_pure (value : α) : (pure value : Except ε α) = .ok value :=
  rfl

/-- Steps that succeed one after another succeed each. -/
theorem bind_eq_ok_iff {result : Except ε α} {next : α → Except ε β} {value : β} :
    result >>= next = .ok value ↔ ∃ middle, result = .ok middle ∧ next middle = .ok value := by
  cases result with
  | error error => simp
  | ok middle => simp

theorem mapError_eq_ok_iff {ε' : Type} {result : Except ε α} {change : ε → ε'} {value : α} :
    result.mapError change = .ok value ↔ result = .ok value := by
  cases result <;> simp [Except.mapError]

theorem mapM_eq_ok {check : α → Except ε β} {change : α → β} {values : List α}
    (all_ok : ∀ value ∈ values, check value = .ok (change value)) :
    values.mapM check = .ok (values.map change) := by
  induction values with
  | nil => rfl
  | cons value values ih =>
      rcases List.forall_mem_cons.1 all_ok with ⟨value_ok, others_ok⟩
      rw [List.mapM_cons, value_ok, except_ok_bind, ih others_ok]
      rfl

theorem mapM_eq_error {check : α → Except ε β} {change : α → β} {value : α} {error : ε}
    {before : List α} (all_ok : ∀ value ∈ before, check value = .ok (change value))
    (refused : check value = .error error) (after : List α) :
    (before ++ value :: after).mapM check = .error error := by
  induction before with
  | nil => rw [List.nil_append, List.mapM_cons, refused, except_error_bind]
  | cons first before ih =>
      rcases List.forall_mem_cons.1 all_ok with ⟨first_ok, others_ok⟩
      rw [List.cons_append, List.mapM_cons, first_ok, except_ok_bind, ih others_ok,
        except_error_bind]

end Result

section Digits

theorem isDigit_of_mem_decimalDigits (digit_mem : digit ∈ decimalDigits number) : digit.isDigit :=
  Nat.isDigit_of_mem_toDigits (by omega) (by omega) digit_mem

@[simp]
theorem ofDigitChars_decimalDigits (number : Nat) :
    Nat.ofDigitChars 10 (decimalDigits number) 0 = number :=
  Nat.ofDigitChars_ten_toDigits

theorem exists_decimalDigits_eq_cons (number : Nat) :
    ∃ first others, decimalDigits number = first :: others :=
  List.exists_cons_of_ne_nil Nat.toDigits_ne_nil

theorem eq_zero_of_decimalDigits_eq_cons (starts : decimalDigits number = '0' :: others) :
    number = 0 := by
  induction number using Nat.strong_induction_on generalizing others with
  | _ number ih =>
      by_cases isOne : number < 10
      · rw [decimalDigits, Nat.toDigits_of_lt_base isOne] at starts
        simp only [List.cons.injEq, Nat.digitChar_eq_zero] at starts
        exact starts.1
      · rcases exists_decimalDigits_eq_cons (number / 10) with ⟨first, more, quotient_eq⟩
        rw [decimalDigits, Nat.toDigits_of_base_le (by omega) (by omega), ← decimalDigits,
          quotient_eq, List.cons_append, List.cons.injEq] at starts
        rw [starts.1] at quotient_eq
        have quotient_zero := ih (number / 10) (by omega) quotient_eq
        omega

/-- A number of several digits does not start with zero. -/
theorem eq_nil_of_decimalDigits_eq_cons (starts : decimalDigits number = '0' :: others) :
    others = [] := by
  rw [eq_zero_of_decimalDigits_eq_cons starts] at starts
  simpa [decimalDigits] using starts

/-- Among the digits of a number a zero stands first only if it stands alone. -/
theorem exists_decimalDigits_eq (number : Nat) :
    ∃ first others, decimalDigits number = first :: others ∧
      (∀ digit ∈ first :: others, digit.isDigit) ∧ (first = '0' → others = []) ∧
      Nat.ofDigitChars 10 (first :: others) 0 = number := by
  have all_digits : ∀ digit ∈ decimalDigits number, digit.isDigit :=
    fun digit => isDigit_of_mem_decimalDigits
  have number_eq := ofDigitChars_decimalDigits number
  rcases exists_decimalDigits_eq_cons number with ⟨first, others, digits_eq⟩
  rw [digits_eq] at all_digits number_eq
  refine ⟨first, others, digits_eq, all_digits, ?_, number_eq⟩
  rintro rfl
  exact eq_nil_of_decimalDigits_eq_cons digits_eq

theorem decimalDigits_of_isDigit (isDigit : digit.isDigit) :
    decimalDigits (digit.toNat - '0'.toNat) = [digit] := by
  have bounds := isDigit_iff_bounds.1 isDigit
  have zero_eq : '0'.toNat = 48 := rfl
  have digit_lt : digit.toNat - '0'.toNat < 10 := by omega
  rw [decimalDigits, Nat.toDigits_of_lt_base digit_lt, List.singleton_inj, ← Char.toNat_inj,
    Nat.toNat_digitChar_of_lt_ten digit_lt, zero_eq, Nat.add_sub_cancel' bounds.1]

/-- Further digits of a number that is not zero stand after those that it has. -/
theorem decimalDigits_ofDigitChars_of_pos (all_digits : ∀ digit ∈ digits, digit.isDigit)
    (positive : 0 < start) :
    decimalDigits (Nat.ofDigitChars 10 digits start) = decimalDigits start ++ digits := by
  induction digits generalizing start with
  | nil => simp
  | cons digit digits ih =>
      rcases List.forall_mem_cons.1 all_digits with ⟨isDigit, others_digits⟩
      have bounds := isDigit_iff_bounds.1 isDigit
      have zero_eq : '0'.toNat = 48 := rfl
      have appended := Nat.toDigits_append_toDigits (b := 10) (n := start)
        (d := digit.toNat - '0'.toNat) (by omega) positive (by omega)
      have digit_eq := decimalDigits_of_isDigit isDigit
      rw [decimalDigits] at digit_eq
      rw [digit_eq] at appended
      rw [Nat.ofDigitChars_cons, ih others_digits (by omega), decimalDigits, ← appended,
        List.append_assoc, List.singleton_append]
      rfl

/-- Digits among which a zero stands first only alone are those of the number they make. -/
theorem decimalDigits_ofDigitChars (all_digits : ∀ digit ∈ first :: others, digit.isDigit)
    (alone : first = '0' → others = []) :
    decimalDigits (Nat.ofDigitChars 10 (first :: others) 0) = first :: others := by
  rcases List.forall_mem_cons.1 all_digits with ⟨isDigit, others_digits⟩
  have bounds := isDigit_iff_bounds.1 isDigit
  have zero_eq : '0'.toNat = 48 := rfl
  rw [Nat.ofDigitChars_cons, Nat.mul_zero, Nat.zero_add]
  by_cases isZero : first = '0'
  · rw [alone isZero, Nat.ofDigitChars_nil, decimalDigits_of_isDigit isDigit]
  · have positive : 0 < first.toNat - '0'.toNat := by
      rw [← Char.toNat_inj] at isZero
      omega
    rw [decimalDigits_ofDigitChars_of_pos others_digits positive, decimalDigits_of_isDigit isDigit,
      List.singleton_append]

theorem ofDigitChars_replicate_zero (count start : Nat) :
    Nat.ofDigitChars 10 (List.replicate count '0') start = start * 10 ^ count := by
  induction count generalizing start with
  | zero => simp
  | succ count ih =>
      rw [List.replicate_succ, Nat.ofDigitChars_cons, ih, Nat.pow_succ]
      simp only [Nat.sub_self]
      ring

theorem length_decimalDigits_le_iff {length : Nat} (positive : 0 < length) :
    (decimalDigits number).length ≤ length ↔ number < 10 ^ length :=
  Nat.length_toDigits_le_iff (by omega) positive

theorem lt_pow_length_decimalDigits (number : Nat) :
    number < 10 ^ (decimalDigits number).length :=
  (length_decimalDigits_le_iff Nat.length_toDigits_pos).1 le_rfl

theorem pow_length_decimalDigits_le (positive : 0 < number) :
    10 ^ ((decimalDigits number).length - 1) ≤ number := by
  by_contra less
  rcases Nat.eq_zero_or_pos ((decimalDigits number).length - 1) with isZero | length_pos
  · rw [isZero] at less
    omega
  · have length_le := (length_decimalDigits_le_iff length_pos).2 (Nat.not_le.1 less)
    omega

theorem le_ofDigitChars (digits : List Char) (start : Nat) :
    start ≤ Nat.ofDigitChars 10 digits start := by
  induction digits generalizing start with
  | nil => simp
  | cons digit digits ih =>
      rw [Nat.ofDigitChars_cons]
      exact le_trans (by omega) (ih _)

end Digits

section Padding

theorem isDigit_of_mem_paddedDigits {length : Nat}
    (digit_mem : digit ∈ paddedDigits length number) : digit.isDigit := by
  rcases List.mem_append.1 digit_mem with padding_mem | digit_mem
  · rw [List.eq_of_mem_replicate padding_mem]
    decide
  · exact isDigit_of_mem_decimalDigits digit_mem

@[simp]
theorem ofDigitChars_paddedDigits (length number : Nat) :
    Nat.ofDigitChars 10 (paddedDigits length number) 0 = number := by
  rw [paddedDigits, Nat.ofDigitChars_append, ofDigitChars_replicate_zero, Nat.zero_mul,
    ofDigitChars_decimalDigits]

theorem length_paddedDigits {length : Nat} (positive : 0 < length) (fits : number < 10 ^ length) :
    (paddedDigits length number).length = length := by
  have length_le := (length_decimalDigits_le_iff positive).2 fits
  rw [paddedDigits, List.length_append, List.length_replicate]
  omega

theorem paddedDigits_ne_nil (length number : Nat) : paddedDigits length number ≠ [] :=
  List.append_ne_nil_of_right_ne_nil _ Nat.toDigits_ne_nil

end Padding

section Reading

theorem digitValue?_of_isDigit (isDigit : digit.isDigit) :
    digitValue? digit = some (digit.toNat - '0'.toNat) := by
  have in_range : '0' ≤ digit ∧ digit ≤ '9' := by
    simpa [Char.le_def, UInt32.le_iff_toNat_le] using isDigit_iff_bounds.1 isDigit
  rw [digitValue?, if_pos in_range]

theorem readDigitsFrom_eq (all_digits : ∀ digit ∈ digits, digit.isDigit)
    (fits : Nat.ofDigitChars 10 digits start ≤ bound) :
    readDigitsFrom bound start digits = .ok (Nat.ofDigitChars 10 digits start) := by
  induction digits generalizing start with
  | nil => rfl
  | cons digit digits ih =>
      rcases List.forall_mem_cons.1 all_digits with ⟨isDigit, others_digits⟩
      rw [Nat.ofDigitChars_cons, Nat.mul_comm] at fits ⊢
      have not_beyond := Nat.not_lt.2 ((le_ofDigitChars digits _).trans fits)
      simp only [readDigitsFrom, digitValue?_of_isDigit isDigit, not_beyond, if_false]
      exact ih others_digits fits

theorem readDigits_decimalDigits (fits : number ≤ bound) :
    readDigits bound (decimalDigits number) = .ok number := by
  rcases exists_decimalDigits_eq_cons number with ⟨first, others, digits_eq⟩
  have all_digits : ∀ digit ∈ decimalDigits number, digit.isDigit :=
    fun digit => isDigit_of_mem_decimalDigits
  have fits : Nat.ofDigitChars 10 (decimalDigits number) 0 ≤ bound := by
    rwa [ofDigitChars_decimalDigits]
  have read := readDigitsFrom_eq all_digits fits
  rw [ofDigitChars_decimalDigits] at read
  rw [digits_eq] at read ⊢
  exact read

/-- A signed integer of 64 bits is read back from its text. -/
theorem readSigned_integerText {value : Int}
    (inRange : -(maxSigned + 1) ≤ value ∧ value ≤ maxSigned) :
    readSigned (Json.integerText value) = .ok value := by
  unfold Json.integerText
  split_ifs with isNegative
  · rw [readSigned, readDigits_decimalDigits (by omega)]
    simp only [except_ok_bind, except_pure, Int.ofNat_eq_natCast]
    congr 1
    omega
  · have read : readDigits maxSigned (decimalDigits value.natAbs) = .ok value.natAbs :=
      readDigits_decimalDigits (by omega)
    rcases exists_decimalDigits_eq_cons value.natAbs with ⟨first, others, digits_eq⟩
    have isDigit : first.isDigit :=
      isDigit_of_mem_decimalDigits (digits_eq ▸ List.mem_cons_self)
    rw [digits_eq] at read ⊢
    rw [readSigned]
    · simp only [read, except_ok_bind, except_pure, Int.ofNat_eq_natCast]
      congr 1
      omega
    · exact List.cons_ne_nil first others
    -- A digit is no sign, so the number is read as it stands.
    · rintro digits ⟨⟩
      exact absurd isDigit (by decide)
    · rintro digits ⟨⟩
      exact absurd isDigit (by decide)

end Reading

end ScriptedFeed
