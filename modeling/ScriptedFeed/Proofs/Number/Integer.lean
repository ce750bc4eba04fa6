import ScriptedFeed.Proofs.Number.Digits

/-!
# Which texts are integers

An integer is an optional sign and at least one digit, with any number of zeros in front. What is
read is exactly such a text whose value lies within the bounds, which differ by one for the two
signs.
-/

namespace ScriptedFeed

variable {text digits : List Char} {number bound start : Nat} {value : Int}

/-- At least one decimal digit and nothing else. -/
def IsDigits (digits : List Char) : Prop :=
  digits ≠ [] ∧ ∀ digit ∈ digits, digit.isDigit

/-- A text that writes an integer in decimal. -/
inductive SpellsInteger : List Char → Int → Prop where
  | unsigned {digits : List Char} (isDigits : IsDigits digits) :
      SpellsInteger digits (Nat.ofDigitChars 10 digits 0)
  | plus {digits : List Char} (isDigits : IsDigits digits) :
      SpellsInteger ('+' :: digits) (Nat.ofDigitChars 10 digits 0)
  | minus {digits : List Char} (isDigits : IsDigits digits) :
      SpellsInteger ('-' :: digits) (-Nat.ofDigitChars 10 digits 0)

theorem isDigit_of_digitValue? {digit : Char} {value : Nat}
    (valued : digitValue? digit = some value) :
    digit.isDigit ∧ value = digit.toNat - '0'.toNat := by
  rw [digitValue?] at valued
  split_ifs at valued with inRange
  simp only [Char.le_def, UInt32.le_iff_toNat_le] at inRange
  exact ⟨isDigit_iff_bounds.2 inRange, (Option.some.inj valued).symm⟩

/-- Digits that are gathered within the bound are digits, and their number is what is gathered. -/
theorem ofDigitChars_of_readDigitsFrom (fits : start ≤ bound)
    (read : readDigitsFrom bound start digits = .ok number) :
    (∀ digit ∈ digits, digit.isDigit) ∧ number = Nat.ofDigitChars 10 digits start ∧
      number ≤ bound := by
  induction digits generalizing start with
  | nil =>
      cases read
      exact ⟨List.forall_mem_nil _, rfl, fits⟩
  | cons digit digits ih =>
      rw [readDigitsFrom] at read
      cases valued : digitValue? digit with
      | none => simp [valued] at read
      | some digitValue =>
          simp only [valued] at read
          split_ifs at read with tooLarge
          rcases isDigit_of_digitValue? valued with ⟨isDigit, rfl⟩
          rcases ih (Nat.not_lt.1 tooLarge) read with ⟨others_digits, number_eq, number_le⟩
          refine ⟨List.forall_mem_cons.2 ⟨isDigit, others_digits⟩, ?_, number_le⟩
          rw [number_eq, Nat.ofDigitChars_cons, Nat.mul_comm]

theorem readDigits_eq_ok_iff : readDigits bound digits = .ok number ↔
    IsDigits digits ∧ number = Nat.ofDigitChars 10 digits 0 ∧ number ≤ bound := by
  cases digits with
  | nil => simp [readDigits, IsDigits]
  | cons digit digits =>
      simp only [readDigits, IsDigits, ne_eq, List.cons_ne_nil, not_false_iff, true_and]
      constructor
      · exact ofDigitChars_of_readDigitsFrom (Nat.zero_le bound)
      · rintro ⟨all_digits, rfl, fits⟩
        exact readDigitsFrom_eq all_digits fits

theorem IsDigits.exists_cons (isDigits : IsDigits digits) :
    ∃ first others, digits = first :: others ∧ first.isDigit ∧
      ∀ digit ∈ others, digit.isDigit := by
  rcases isDigits with ⟨nonempty, all_digits⟩
  rcases List.exists_cons_of_ne_nil nonempty with ⟨first, others, rfl⟩
  exact ⟨first, others, rfl, List.forall_mem_cons.1 all_digits⟩

theorem not_isDigits_cons {sign : Char} (not_digit : sign.isDigit = false) :
    ¬ IsDigits (sign :: digits) := by
  rintro ⟨-, all_digits⟩
  simp [all_digits sign List.mem_cons_self] at not_digit

theorem SpellsInteger.ne_nil (spells : SpellsInteger text value) : text ≠ [] := by
  cases spells with
  | unsigned isDigits => exact isDigits.1
  | plus => simp
  | minus => simp

theorem spellsInteger_plus_iff : SpellsInteger ('+' :: digits) value ↔
    IsDigits digits ∧ value = Nat.ofDigitChars 10 digits 0 := by
  constructor
  · intro spells
    cases spells with
    | unsigned isDigits => exact absurd isDigits (not_isDigits_cons (by decide))
    | plus isDigits => exact ⟨isDigits, rfl⟩
  · rintro ⟨isDigits, rfl⟩
    exact .plus isDigits

theorem spellsInteger_minus_iff : SpellsInteger ('-' :: digits) value ↔
    IsDigits digits ∧ value = -Nat.ofDigitChars 10 digits 0 := by
  constructor
  · intro spells
    cases spells with
    | unsigned isDigits => exact absurd isDigits (not_isDigits_cons (by decide))
    | minus isDigits => exact ⟨isDigits, rfl⟩
  · rintro ⟨isDigits, rfl⟩
    exact .minus isDigits

theorem spellsInteger_unsigned_iff (no_plus : ∀ digits, text ≠ '+' :: digits)
    (no_minus : ∀ digits, text ≠ '-' :: digits) : SpellsInteger text value ↔
      IsDigits text ∧ value = Nat.ofDigitChars 10 text 0 := by
  constructor
  · intro spells
    cases spells with
    | unsigned isDigits => exact ⟨isDigits, rfl⟩
    | plus => exact absurd rfl (no_plus _)
    | minus => exact absurd rfl (no_minus _)
  · rintro ⟨isDigits, rfl⟩
    exact .unsigned isDigits

/-- No text writes two integers. -/
theorem SpellsInteger.eq {other : Int} (spells : SpellsInteger text value)
    (spells_other : SpellsInteger text other) : value = other := by
  cases spells_other with
  | unsigned isDigits =>
      cases spells with
      | unsigned => rfl
      | plus => exact absurd isDigits (not_isDigits_cons (by decide))
      | minus => exact absurd isDigits (not_isDigits_cons (by decide))
  | plus => exact (spellsInteger_plus_iff.1 spells).2
  | minus => exact (spellsInteger_minus_iff.1 spells).2

theorem spellsInteger_decimalDigits (number : Nat) :
    SpellsInteger (decimalDigits number) number := by
  have isDigits : IsDigits (decimalDigits number) := by
    refine ⟨Nat.toDigits_ne_nil, ?_⟩
    intro digit digit_mem
    exact isDigit_of_mem_decimalDigits digit_mem
  have spells := SpellsInteger.unsigned isDigits
  rwa [ofDigitChars_decimalDigits] at spells

/-- Digits that stand for a number that is not negative. -/
theorem exists_readDigits_eq_ok_iff :
    (∃ number, readDigits maxSigned digits = .ok number ∧ (number : Int) = value) ↔
      (IsDigits digits ∧ value = Nat.ofDigitChars 10 digits 0) ∧
        -(maxSigned + 1) ≤ value ∧ value ≤ maxSigned := by
  simp only [readDigits_eq_ok_iff]
  constructor
  · rintro ⟨_, ⟨isDigits, rfl, fits⟩, rfl⟩
    exact ⟨⟨isDigits, rfl⟩, by omega⟩
  · rintro ⟨⟨isDigits, rfl⟩, inRange⟩
    exact ⟨_, ⟨isDigits, rfl, by omega⟩, rfl⟩

/-- A signed integer is read from the texts that spell it, if it fits 64 bits. -/
theorem readSigned_eq_ok_iff : readSigned text = .ok value ↔
    SpellsInteger text value ∧ -(maxSigned + 1) ≤ value ∧ value ≤ maxSigned := by
  fun_cases readSigned text with
  | case1 =>
      have not_spelled : ¬ SpellsInteger [] value := fun spells => spells.ne_nil rfl
      simp [not_spelled]
  | case2 digits =>
      simp only [bind_eq_ok_iff, except_pure, Except.ok.injEq, Int.ofNat_eq_natCast,
        spellsInteger_plus_iff]
      exact exists_readDigits_eq_ok_iff
  | case3 digits =>
      simp only [bind_eq_ok_iff, readDigits_eq_ok_iff, except_pure, Except.ok.injEq,
        Int.ofNat_eq_natCast, spellsInteger_minus_iff]
      constructor
      · rintro ⟨_, ⟨isDigits, rfl, fits⟩, rfl⟩
        exact ⟨⟨isDigits, rfl⟩, by omega⟩
      · rintro ⟨⟨isDigits, rfl⟩, inRange⟩
        exact ⟨_, ⟨isDigits, rfl, by omega⟩, rfl⟩
  | case4 _ _ no_plus no_minus =>
      simp only [bind_eq_ok_iff, except_pure, Except.ok.injEq, Int.ofNat_eq_natCast,
        spellsInteger_unsigned_iff no_plus no_minus]
      exact exists_readDigits_eq_ok_iff

end ScriptedFeed
