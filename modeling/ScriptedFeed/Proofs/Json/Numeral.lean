import ScriptedFeed.Proofs.Json.Exact
import ScriptedFeed.Proofs.Json.Float

/-!
# Numbers are read by their form

Where a number ends and what it is does not depend on what follows it. Each stage of reading, from
the power of ten back to the first digit, takes a part of the form of a number, and would take the
same part with the same result before anything else that ends a number.
-/

namespace ScriptedFeed

namespace Json

variable {negative : Bool} {gathered next : Gathered} {significand exponent : Nat}
  {bytes rest : List UInt8} {number : Number}

/-- An integer that 64 bits hold with its sign, or a finite number. -/
def Number.IsHeld : Number → Prop
  | integer value => value.natAbs ≤ maxUnsigned
  | float value => value.isFinite

/--
A stage of reading a number takes something of a form, and would take it with the same result before
anything else that ends a number.
-/
def TakesForm (read : List UInt8 → Except Failure (Number × List UInt8))
    (Form : List UInt8 → Prop) : Prop :=
  ∀ {bytes rest number}, read bytes = .ok (number, rest) →
    ∃ written, bytes = written ++ rest ∧ Form written ∧ number.IsHeld ∧
      ∀ other, EndsNumber other → read (written ++ other) = .ok (number, other)

section Power

theorem finishFloat_eq_ok_iff :
    finishFloat negative gathered bytes = .ok (number, rest) ↔
      bytes = rest ∧ ∃ magnitude, gathered.magnitude? = some magnitude ∧
        number = .float (.finite negative magnitude) := by
  rw [finishFloat]
  cases gathered.magnitude? with
  | none => simp [finishMagnitude]
  | some magnitude => simp [finishMagnitude, eq_comm, and_comm]

theorem takesForm_finishFloat (negative : Bool) (gathered : Gathered) :
    TakesForm (finishFloat negative gathered) (· = []) := by
  intro bytes rest number read
  rcases finishFloat_eq_ok_iff.1 read with ⟨rfl, magnitude, found, rfl⟩
  exact ⟨[], rfl, rfl, rfl, fun other _ => finishFloat_eq_ok_iff.2 ⟨rfl, magnitude, found, rfl⟩⟩

theorem exists_digits_of_inRange {power : Nat}
    (read : readExponentDigits exponent bytes = .inRange power rest) :
    ∃ digits, bytes = digits ++ rest ∧ (∀ byte ∈ digits, isDigit byte) ∧
      ∀ other, EndsDigits other →
        readExponentDigits exponent (digits ++ other) = .inRange power other := by
  induction bytes generalizing exponent with
  | nil =>
      cases read
      exact ⟨[], rfl, by simp, fun _ => readExponentDigits_of_endsDigits power⟩
  | cons byte bytes ih =>
      rw [readExponentDigits] at read
      split_ifs at read with byte_digit isBeyond
      · rcases ih read with ⟨digits, rfl, all_digits, continues⟩
        refine ⟨byte :: digits, rfl, List.forall_mem_cons.2 ⟨byte_digit, all_digits⟩, ?_⟩
        intro other ends
        rw [List.cons_append, readExponentDigits, if_pos byte_digit, if_neg isBeyond,
          continues other ends]
      · cases read
        exact ⟨[], rfl, by simp, fun _ => readExponentDigits_of_endsDigits power⟩

theorem exists_digits_of_beyond (read : readExponentDigits exponent bytes = .beyond rest) :
    ∃ digits, bytes = digits ++ rest ∧ (∀ byte ∈ digits, isDigit byte) ∧
      ∀ other, readExponentDigits exponent (digits ++ other) = .beyond other := by
  induction bytes generalizing exponent with
  | nil => cases read
  | cons byte bytes ih =>
      rw [readExponentDigits] at read
      split_ifs at read with byte_digit isBeyond
      · cases read
        refine ⟨[byte], rfl, by simpa using byte_digit, fun other => ?_⟩
        rw [List.singleton_append, readExponentDigits, if_pos byte_digit, if_pos isBeyond]
      · rcases ih read with ⟨digits, rfl, all_digits, continues⟩
        refine ⟨byte :: digits, rfl, List.forall_mem_cons.2 ⟨byte_digit, all_digits⟩, ?_⟩
        intro other
        rw [List.cons_append, readExponentDigits, if_pos byte_digit, if_neg isBeyond,
          continues other]

/-- Reads the digits of the power of ten, after its sign. -/
def readPower (negative : Bool) (gathered : Gathered) (shrinks : Bool) (bytes : List UInt8) :
    Except Failure (Number × List UInt8) :=
  match bytes with
  | [] => .error (.before .unfinishedValue [])
  | byte :: rest =>
      if !isDigit byte then .error (.before .malformedNumber rest)
      else
        match readExponentDigits (digitOf byte) rest with
        | .inRange exponent rest =>
            let change : Int := if shrinks then -exponent else exponent
            finishFloat negative ⟨gathered.significand, gathered.exponent + change⟩ rest
        | .beyond rest =>
            if gathered.significand ≠ 0 ∧ !shrinks then .error (.before .numberTooLarge rest)
            else .ok (.float (.finite negative .zero), rest.dropWhile isDigit)

/-- The sign of a power of ten, and whether it is a minus. -/
inductive IsSign : List UInt8 → Bool → Prop where
  | absent : IsSign [] false
  | plus : IsSign [plus] false
  | minus : IsSign [minus] true

theorem IsSign.readExponent_eq {sign : List UInt8} {shrinks : Bool} (isSign : IsSign sign shrinks)
    {first : UInt8} (first_digit : isDigit first) (others : List UInt8) :
    readExponent negative gathered (sign ++ first :: others) =
      readPower negative gathered shrinks (first :: others) := by
  cases isSign with
  | absent =>
      have not_plus : first ≠ Json.plus := by
        rintro rfl
        cases first_digit
      have not_minus : first ≠ Json.minus := by
        rintro rfl
        cases first_digit
      simp only [List.nil_append, readExponent, if_neg not_plus, if_neg not_minus]
      rfl
  | plus => rfl
  | minus => rfl

theorem exists_isSign_of_readExponent (read : readExponent negative gathered bytes =
    .ok (number, rest)) :
    ∃ sign shrinks after, bytes = sign ++ after ∧ IsSign sign shrinks ∧
      readPower negative gathered shrinks after = .ok (number, rest) := by
  rcases bytes with _ | ⟨byte, bytes⟩
  · cases read
  by_cases isPlus : byte = plus
  · subst isPlus
    exact ⟨[plus], false, bytes, rfl, .plus, read⟩
  by_cases isMinus : byte = minus
  · subst isMinus
    exact ⟨[minus], true, bytes, rfl, .minus, read⟩
  simp only [readExponent, if_neg isPlus, if_neg isMinus] at read
  exact ⟨[], false, byte :: bytes, rfl, .absent, read⟩

theorem takesForm_readPower (negative : Bool) (gathered : Gathered) (shrinks : Bool) :
    TakesForm (readPower negative gathered shrinks) IsDigits := by
  intro bytes rest number read
  rcases bytes with _ | ⟨first, bytes⟩
  · cases read
  simp only [readPower] at read
  by_cases no_digit : (!isDigit first) = true
  · rw [if_pos no_digit] at read
    cases read
  rw [if_neg no_digit] at read
  have first_digit : isDigit first := by simpa using no_digit
  cases digits_eq : readExponentDigits (digitOf first) bytes with
  | inRange power after =>
      rw [digits_eq] at read
      rcases finishFloat_eq_ok_iff.1 read with ⟨rfl, magnitude, found, rfl⟩
      rcases exists_digits_of_inRange digits_eq with ⟨digits, rfl, all_digits, continues⟩
      refine ⟨first :: digits, rfl, .mk first_digit all_digits, rfl, fun other ends => ?_⟩
      simp only [List.cons_append, readPower, first_digit, Bool.not_true, Bool.false_eq_true,
        if_false, continues other ends.endsDigits]
      exact finishFloat_eq_ok_iff.2 ⟨rfl, magnitude, found, rfl⟩
  | beyond after =>
      rw [digits_eq] at read
      simp only at read
      split_ifs at read with tooLarge
      cases read
      rcases exists_digits_of_beyond digits_eq with ⟨digits, rfl, all_digits, continues⟩
      refine ⟨first :: (digits ++ after.takeWhile isDigit), ?_,
        .mk first_digit (List.forall_mem_append.2 ⟨all_digits, all_isDigit_takeWhile after⟩), rfl,
        ?_⟩
      · simp
      · intro other ends
        have dropped := dropWhile_isDigit_append (all_isDigit_takeWhile after) ends.endsDigits
        simp only [List.cons_append, List.append_assoc, readPower, first_digit, Bool.not_true,
          Bool.false_eq_true, if_false, continues, if_neg tooLarge, dropped]

/-- The digits of a power of ten, with a sign or without. -/
def IsSignedDigits (written : List UInt8) : Prop :=
  ∃ sign digits, written = sign ++ digits ∧ (sign = [] ∨ sign = [plus] ∨ sign = [minus]) ∧
    IsDigits digits

theorem takesForm_readExponent (negative : Bool) (gathered : Gathered) :
    TakesForm (readExponent negative gathered) IsSignedDigits := by
  intro bytes rest number read
  rcases exists_isSign_of_readExponent read with ⟨sign, shrinks, digits, rfl, isSign, power_read⟩
  rcases takesForm_readPower negative gathered shrinks power_read with
    ⟨digits, rfl, isDigits, isHeld, continues⟩
  have sign_eq : sign = [] ∨ sign = [plus] ∨ sign = [minus] := by cases isSign <;> simp
  refine ⟨sign ++ digits, by simp, ⟨sign, digits, rfl, sign_eq, isDigits⟩, isHeld,
    fun other ends => ?_⟩
  have read_eq := continues other ends
  rcases isDigits with ⟨first_digit, -⟩
  rw [List.cons_append] at read_eq
  rw [List.append_assoc, List.cons_append, isSign.readExponent_eq first_digit, read_eq]

theorem takesForm_readTail (negative : Bool) (gathered : Gathered) :
    TakesForm (readTail negative gathered) IsPower := by
  intro bytes rest number read
  by_cases starts : ∃ mark after, bytes = mark :: after ∧ isExponentMark mark
  · rcases starts with ⟨mark, after, rfl, isMark⟩
    have tail_eq (bytes : List UInt8) : readTail negative gathered (mark :: bytes) =
        readExponent negative gathered bytes := by rw [readTail, if_pos isMark]
    rw [tail_eq] at read
    rcases takesForm_readExponent negative gathered read with
      ⟨_, rfl, ⟨sign, digits, rfl, isSign, isDigits⟩, isHeld, continues⟩
    refine ⟨mark :: (sign ++ digits), rfl, .present isMark isSign isDigits, isHeld,
      fun other ends => ?_⟩
    rw [List.cons_append, tail_eq]
    exact continues other ends
  · have finished : readTail negative gathered bytes = finishFloat negative gathered bytes := by
      rcases bytes with _ | ⟨byte, bytes⟩
      · rfl
      · rw [readTail, if_neg fun isMark => starts ⟨byte, bytes, rfl, isMark⟩]
    rw [finished] at read
    rcases takesForm_finishFloat negative gathered read with ⟨_, rfl, rfl, isHeld, continues⟩
    refine ⟨[], rfl, .absent, isHeld, fun other ends => ?_⟩
    rw [List.nil_append, readTail_of_endsNumber ends]
    exact continues other ends

end Power

section Fraction

theorem endsDigits_dropWhile (bytes : List UInt8) : EndsDigits (bytes.dropWhile isDigit) := by
  intro byte byte_mem
  have not_digit := List.head?_dropWhile_not isDigit bytes
  rw [Option.mem_def.1 byte_mem] at not_digit
  simpa using not_digit

theorem exists_digits_of_gatherFraction (read : gatherFraction gathered bytes = (next, rest)) :
    ∃ digits, bytes = digits ++ rest ∧ (∀ byte ∈ digits, isDigit byte) ∧ EndsDigits rest ∧
      ∀ other, EndsDigits other → gatherFraction gathered (digits ++ other) = (next, other) := by
  induction bytes generalizing gathered with
  | nil =>
      cases read
      exact ⟨[], rfl, by simp, by rintro _ ⟨⟩, fun _ => gatherFraction_of_endsDigits next⟩
  | cons byte bytes ih =>
      rw [gatherFraction] at read
      by_cases byte_digit : isDigit byte
      · rw [if_pos byte_digit] at read
        by_cases isBeyond : maxUnsigned < gathered.significand * 10 + digitOf byte
        · -- Once the integer is full, all further digits belong to the fraction as well.
          simp only [if_pos isBeyond, Prod.mk.injEq] at read
          rcases read with ⟨rfl, rfl⟩
          refine ⟨byte :: bytes.takeWhile isDigit, by simp,
            List.forall_mem_cons.2 ⟨byte_digit, all_isDigit_takeWhile bytes⟩,
            endsDigits_dropWhile bytes, ?_⟩
          intro other ends
          have dropped := dropWhile_isDigit_append (all_isDigit_takeWhile bytes) ends
          simp only [List.cons_append, gatherFraction, if_pos byte_digit, if_pos isBeyond, dropped]
        · simp only [if_neg isBeyond] at read
          rcases ih read with ⟨digits, rfl, all_digits, ended, continues⟩
          refine ⟨byte :: digits, rfl, List.forall_mem_cons.2 ⟨byte_digit, all_digits⟩, ended, ?_⟩
          intro other ends
          simp only [List.cons_append, gatherFraction, if_pos byte_digit, if_neg isBeyond,
            continues other ends]
      · rw [if_neg byte_digit] at read
        cases read
        exact ⟨[], rfl, by simp, endsDigits_cons (Bool.eq_false_iff.2 byte_digit) bytes,
          fun _ => gatherFraction_of_endsDigits _⟩

/-- The digits after the point, and the power of ten if there is one. -/
def IsDigitsAndPower (written : List UInt8) : Prop :=
  ∃ digits power, written = digits ++ power ∧ IsDigits digits ∧ IsPower power

theorem takesForm_readFraction (negative : Bool) (gathered : Gathered) :
    TakesForm (readFraction negative gathered) IsDigitsAndPower := by
  intro bytes rest number read
  rcases bytes with _ | ⟨first, bytes⟩
  · cases read
  simp only [readFraction] at read
  split_ifs at read with first_digit
  rcases digits_eq : gatherFraction gathered (first :: bytes) with ⟨next, others⟩
  rw [digits_eq] at read
  rcases exists_digits_of_gatherFraction digits_eq with
    ⟨digits, bytes_eq, all_digits, ended, gathers⟩
  rcases takesForm_readTail negative next read with ⟨power, rfl, isPower, isHeld, continues⟩
  rcases digits with _ | ⟨digit, digits⟩
  · rw [List.nil_append] at bytes_eq
    rw [← bytes_eq] at ended
    rw [ended first rfl] at first_digit
    cases first_digit
  · rw [List.cons_append, List.cons.injEq] at bytes_eq
    rcases bytes_eq with ⟨rfl, rfl⟩
    refine ⟨first :: digits ++ power, by simp, ⟨_, power, rfl,
      .mk first_digit (List.forall_mem_cons.1 all_digits).2, isPower⟩, isHeld, fun other ends => ?_⟩
    have gathered_eq := gathers _ (isPower.endsDigits ends)
    simp only [List.cons_append, List.append_assoc] at gathered_eq ⊢
    simp only [readFraction, if_pos first_digit, gathered_eq, continues other ends]

/-- What may follow the digits before the point. -/
def IsFractionAndPower (written : List UInt8) : Prop :=
  ∃ fraction power, written = fraction ++ power ∧ IsFraction fraction ∧ IsPower power

theorem IsDigitsAndPower.point {written : List UInt8} (isDigits : IsDigitsAndPower written) :
    IsFractionAndPower (point :: written) := by
  rcases isDigits with ⟨digits, power, rfl, isDigits, isPower⟩
  exact ⟨Json.point :: digits, power, rfl, .present isDigits, isPower⟩

theorem IsPower.isFractionAndPower {power : List UInt8} (isPower : IsPower power) :
    IsFractionAndPower power :=
  ⟨[], power, rfl, .absent, isPower⟩

theorem readFractionOrTail_of_not_point (not_point : ∀ byte ∈ bytes.head?, byte ≠ point) :
    readFractionOrTail negative gathered bytes = readTail negative gathered bytes := by
  rcases bytes with _ | ⟨byte, bytes⟩
  · rfl
  · simp only [readFractionOrTail, if_neg (not_point byte rfl)]

theorem takesForm_readFractionOrTail (negative : Bool) (gathered : Gathered) :
    TakesForm (readFractionOrTail negative gathered) IsFractionAndPower := by
  intro bytes rest number read
  by_cases starts : ∃ after, bytes = point :: after
  · rcases starts with ⟨after, rfl⟩
    have fraction_eq (bytes : List UInt8) : readFractionOrTail negative gathered (point :: bytes) =
        readFraction negative gathered bytes := by simp only [readFractionOrTail, if_true]
    rw [fraction_eq] at read
    rcases takesForm_readFraction negative gathered read with
      ⟨written, rfl, isDigits, isHeld, continues⟩
    refine ⟨point :: written, rfl, isDigits.point, isHeld, fun other ends => ?_⟩
    rw [List.cons_append, fraction_eq]
    exact continues other ends
  · have not_point : ∀ byte ∈ bytes.head?, byte ≠ point := by
      rintro byte byte_mem rfl
      exact starts ⟨_, (List.eq_cons_of_mem_head? byte_mem)⟩
    rw [readFractionOrTail_of_not_point not_point] at read
    rcases takesForm_readTail negative gathered read with ⟨power, rfl, isPower, isHeld, continues⟩
    refine ⟨power, rfl, isPower.isFractionAndPower, isHeld, fun other ends => ?_⟩
    rw [readFractionOrTail_of_not_point (isPower.not_point ends)]
    exact continues other ends

end Fraction

section Whole

theorem takesForm_wholeNumber (negative : Bool) (fits : significand ≤ maxUnsigned) :
    TakesForm (wholeNumber negative significand) (· = []) := by
  intro bytes rest number read
  simp only [wholeNumber] at read
  split_ifs at read with isPositive inRange
  · cases read
    exact ⟨[], rfl, rfl, fits, fun other _ => by simp [wholeNumber, isPositive]⟩
  · cases read
    refine ⟨[], rfl, rfl, ?_, fun other _ => by simp [wholeNumber, isPositive, inRange]⟩
    simpa [Number.IsHeld] using fits
  · rcases takesForm_finishFloat true ⟨significand, 0⟩ read with
      ⟨written, rfl, rfl, isHeld, continues⟩
    refine ⟨[], rfl, rfl, isHeld, fun other ends => ?_⟩
    rw [List.nil_append, wholeNumber, if_neg isPositive, if_neg inRange]
    exact continues other ends

/-- What may follow the first digit of a number. -/
def FollowsDigit (written : List UInt8) : Prop :=
  ∃ digits after, written = digits ++ after ∧ (∀ byte ∈ digits, isDigit byte) ∧
    IsFractionAndPower after

theorem IsFractionAndPower.endsDigits {after : List UInt8} (isAfter : IsFractionAndPower after)
    (ends : EndsNumber rest) : EndsDigits (after ++ rest) := by
  rcases isAfter with ⟨fraction, power, rfl, isFraction, isPower⟩
  rw [List.append_assoc]
  exact isFraction.endsDigits isPower ends

theorem takeWhile_isDigit_append {digits : List UInt8} (all_digits : ∀ byte ∈ digits, isDigit byte)
    (ends : EndsDigits rest) : (digits ++ rest).takeWhile isDigit = digits := by
  rw [List.takeWhile_append_of_pos all_digits]
  cases rest with
  | nil => simp
  | cons byte rest => rw [List.takeWhile_cons_of_neg (by simp [ends byte rfl]), List.append_nil]

/-- A point, or the mark of a power of ten, ends the digits and goes on with the number. -/
theorem readWhole_of_mark {byte : UInt8} (isMark : byte = point ∨ isExponentMark byte)
    (bytes : List UInt8) :
    readWhole negative significand (byte :: bytes) =
      if byte = point then readFraction negative ⟨significand, 0⟩ bytes
      else readExponent negative ⟨significand, 0⟩ bytes := by
  have not_digit : isDigit byte = false := by
    rcases isMark with rfl | isMark
    · rfl
    · exact isDigit_of_isExponentMark isMark
  rw [readWhole, not_digit, if_neg Bool.false_ne_true, if_pos isMark]
  by_cases isPoint : byte = point
  · simp only [readFractionOrTail, if_pos isPoint]
  · have isMark : isExponentMark byte := isMark.resolve_left isPoint
    simp only [readFractionOrTail, if_neg isPoint, readTail, if_pos isMark]

/-- Where no digit follows nor anything else that continues the number, nothing more is taken. -/
theorem exists_followsDigit_of_wholeNumber (fits : significand ≤ maxUnsigned)
    (ended : wholeNumber negative significand bytes = .ok (number, rest)) :
    ∃ written, bytes = written ++ rest ∧ FollowsDigit written ∧ number.IsHeld ∧
      ∀ other, EndsNumber other →
        readWhole negative significand (written ++ other) = .ok (number, other) := by
  rcases takesForm_wholeNumber negative fits ended with ⟨_, rfl, rfl, isHeld, continues⟩
  refine ⟨[], rfl, ⟨[], [], rfl, by simp, IsPower.absent.isFractionAndPower⟩, isHeld,
    fun other ends => ?_⟩
  rw [List.nil_append, readWhole_of_endsNumber negative significand ends]
  exact continues other ends

theorem takesForm_readWhole (negative : Bool) (fits : significand ≤ maxUnsigned) :
    TakesForm (readWhole negative significand) FollowsDigit := by
  intro bytes rest number read
  induction bytes generalizing significand with
  | nil => exact exists_followsDigit_of_wholeNumber fits read
  | cons byte bytes ih =>
      by_cases byte_digit : isDigit byte
      · rw [readWhole, if_pos byte_digit] at read
        split_ifs at read with isBeyond
        -- The digits that are not gathered any more are counted up to where they end.
        · rcases takesForm_readFractionOrTail negative _ read with
            ⟨after, dropped_eq, isAfter, isHeld, continues⟩
          have all_digits : ∀ digit ∈ byte :: bytes.takeWhile isDigit, isDigit digit :=
            List.forall_mem_cons.2 ⟨byte_digit, all_isDigit_takeWhile bytes⟩
          refine ⟨byte :: bytes.takeWhile isDigit ++ after, ?_,
            ⟨_, after, rfl, all_digits, isAfter⟩, isHeld, fun other ends => ?_⟩
          · rw [List.append_assoc, ← dropped_eq, List.cons_append,
              List.takeWhile_append_dropWhile]
          · have counted := takeWhile_isDigit_append all_digits (isAfter.endsDigits ends)
            have dropped := dropWhile_isDigit_append (all_isDigit_takeWhile bytes)
              (isAfter.endsDigits ends)
            have read_eq := continues other ends
            rw [List.takeWhile_cons_of_pos byte_digit] at read_eq
            rw [List.cons_append] at counted
            rw [List.append_assoc, List.cons_append, readWhole, if_pos byte_digit, if_pos isBeyond,
              dropped]
            simp only [counted, read_eq]
        · rcases ih (Nat.not_lt.1 isBeyond) read with
            ⟨_, rfl, ⟨digits, after, rfl, all_digits, isAfter⟩, isHeld, continues⟩
          refine ⟨byte :: digits ++ after, by simp, ⟨byte :: digits, after, rfl,
            List.forall_mem_cons.2 ⟨byte_digit, all_digits⟩, isAfter⟩, isHeld, fun other ends => ?_⟩
          rw [List.cons_append, List.cons_append, readWhole, if_pos byte_digit, if_neg isBeyond]
          exact continues other ends
      · by_cases isMark : byte = point ∨ isExponentMark byte
        · rw [readWhole_of_mark isMark] at read
          split_ifs at read with isPoint
          · rcases takesForm_readFraction negative _ read with
              ⟨after, rfl, isAfter, isHeld, continues⟩
            subst isPoint
            refine ⟨point :: after, rfl, ⟨[], _, rfl, by simp, isAfter.point⟩, isHeld,
              fun other ends => ?_⟩
            rw [List.cons_append, readWhole_of_mark isMark, if_pos rfl]
            exact continues other ends
          · rcases takesForm_readExponent negative _ read with
              ⟨_, rfl, ⟨sign, digits, rfl, isSign, isDigits⟩, isHeld, continues⟩
            have isPower := IsPower.present (isMark.resolve_left isPoint) isSign isDigits
            refine ⟨byte :: (sign ++ digits), rfl,
              ⟨[], _, rfl, by simp, isPower.isFractionAndPower⟩, isHeld, fun other ends => ?_⟩
            rw [List.cons_append, readWhole_of_mark isMark, if_neg isPoint]
            exact continues other ends
        · rw [readWhole, if_neg byte_digit, if_neg isMark] at read
          exact exists_followsDigit_of_wholeNumber fits read

theorem takesForm_readNumber (negative : Bool) : TakesForm (readNumber negative) IsNumeral := by
  intro bytes rest number read
  rcases exists_cons_of_readNumber read with ⟨first, bytes, rfl, first_digit, no_second, whole_read⟩
  have fits : digitOf first ≤ maxUnsigned := by
    have first_lt := first.toNat_lt
    rw [digitOf, maxUnsigned]
    omega
  rcases takesForm_readWhole negative fits whole_read with
    ⟨_, rfl, ⟨digits, after, rfl, all_digits, isAfter⟩, isHeld, continues⟩
  have alone : digitOf first = 0 → digits = [] := by
    intro isZero
    rcases digits with _ | ⟨second, digits⟩
    · rfl
    · have second_digit := all_digits second List.mem_cons_self
      rw [no_second isZero second rfl] at second_digit
      cases second_digit
  have isNumeral : IsNumeral (first :: (digits ++ after)) := by
    rcases isAfter with ⟨fraction, power, rfl, isFraction, isPower⟩
    exact .mk (.mk first_digit all_digits alone) isFraction isPower
  refine ⟨first :: (digits ++ after), rfl, isNumeral, isHeld, fun other ends => ?_⟩
  have stands_alone : digitOf first = 0 → EndsDigits (digits ++ after ++ other) := by
    intro isZero
    rw [alone isZero]
    exact isAfter.endsDigits ends
  rw [List.cons_append, readNumber_cons negative first_digit stands_alone]
  exact continues other ends

end Whole

section Float

variable {wanted : String} {speed : Binary64}

theorem exists_isNumber_of_readNumberAs (read : readNumberAs wanted bytes = .ok (number, rest)) :
    ∃ blanks written, bytes = blanks ++ (written ++ rest) ∧ IsBlanks blanks ∧ IsNumber written ∧
      number.IsHeld ∧ ∀ other, EndsNumber other →
        readNumberAs wanted (written ++ other) = .ok (number, other) := by
  rw [readNumberAs] at read
  split at read
  · cases read
  next byte others skipped_eq =>
  rcases exists_eq_append_of_skipBlanks skipped_eq with ⟨blanks, rfl, all_blank⟩
  have fits := fits_leadOf byte
  split at read
  · next lead_eq =>
    rw [lead_eq] at fits
    rcases takesForm_readNumber true read with ⟨written, rfl, isNumeral, isHeld, continues⟩
    refine ⟨blanks, minus :: written, by rw [fits, List.cons_append], all_blank,
      .negative isNumeral, isHeld, fun other ends => ?_⟩
    rw [List.cons_append, readNumberAs_minus]
    exact continues other ends
  · next lead_eq =>
    rcases takesForm_readNumber false read with ⟨written, bytes_eq, isNumeral, isHeld, continues⟩
    refine ⟨blanks, written, by rw [bytes_eq], all_blank, .positive isNumeral, isHeld,
      fun other ends => ?_⟩
    have read_eq := continues other ends
    rcases isNumeral with ⟨⟨first_digit, -, -⟩, -, -⟩
    rw [List.cons_append, List.cons_append] at read_eq ⊢
    rw [readNumberAs_digit wanted first_digit, read_eq]
  · cases read

/-- A number is read from its form, and nothing else is read as a number. -/
theorem readsExactly_readNumberAs (wanted : String) :
    ReadsExactly (readNumberAs wanted) fun written number =>
      IsNumber written ∧ readNumberAs wanted written = .ok (number, []) where
  accepts := by
    rintro written number ⟨isNumber, read⟩
    refine ⟨.number isNumber, fun blanks rest all_blank ends => ?_⟩
    rcases exists_isNumber_of_readNumberAs read with
      ⟨before, found, written_eq, before_blank, -, -, continues⟩
    have isValue : IsValue written := .number isNumber
    rw [written_eq] at isValue
    rw [List.append_nil, isValue.eq_nil_of_append before_blank, List.nil_append] at written_eq
    rw [skipsBlanks_readNumberAs wanted blanks all_blank, written_eq]
    exact continues rest ends
  exists_means := by
    intro bytes number rest read
    rcases exists_isNumber_of_readNumberAs read with
      ⟨blanks, written, bytes_eq, all_blank, isNumber, -, continues⟩
    have alone := continues [] endsNumber_nil
    rw [List.append_nil] at alone
    exact ⟨blanks, written, bytes_eq, all_blank, isNumber, alone⟩

/-- A number as a floating-point number. -/
def Number.toFloat : Number → Binary64
  | integer value => nearestFloat value
  | float value => value

theorem readFloat_eq (bytes : List UInt8) : readFloat bytes = (do
    let (number, rest) ← readNumberAs "f64" bytes
    .ok (number.toFloat, rest)) := by
  rw [readFloat]
  refine bind_congr fun result => ?_
  rcases result with ⟨_ | _, rest⟩ <;> rfl

theorem readsExactly_readFloat : ReadsExactly readFloat fun written speed =>
    IsNumber written ∧ readFloat written = .ok (speed, []) := by
  have exact := (readsExactly_readNumberAs "f64").map Number.toFloat
  rw [← funext readFloat_eq] at exact
  refine exact.congr fun written speed => ?_
  simp only [readFloat_eq, bind_eq_ok_iff, Prod.exists, Except.ok.injEq, Prod.mk.injEq]
  constructor
  · rintro ⟨number, ⟨isNumber, read⟩, toFloat_eq⟩
    exact ⟨isNumber, number, [], read, toFloat_eq, rfl⟩
  · rintro ⟨isNumber, number, rest, read, toFloat_eq, rfl⟩
    exact ⟨number, ⟨isNumber, read⟩, toFloat_eq⟩

theorem Number.IsHeld.isFinite_toFloat (isHeld : number.IsHeld) : number.toFloat.isFinite := by
  cases number with
  | float value => exact isHeld
  | integer value =>
      have fits : value.natAbs ≤ 2 ^ 64 := by
        simp only [IsHeld, maxUnsigned] at isHeld
        omega
      rcases Magnitude.exists_ofNat? fits (by omega) with ⟨magnitude, found, -⟩
      rw [toFloat, nearestFloat, found, Option.elim_some, Binary64.isFinite]

/-- Whatever is read as a floating-point number is finite. -/
theorem isFinite_of_readFloat (read : readFloat bytes = .ok (speed, rest)) : speed.isFinite := by
  simp only [readFloat_eq, bind_eq_ok_iff, Prod.exists, Except.ok.injEq, Prod.mk.injEq] at read
  rcases read with ⟨number, last, number_eq, rfl, -⟩
  rcases exists_isNumber_of_readNumberAs number_eq with ⟨-, -, -, -, -, isHeld, -⟩
  exact isHeld.isFinite_toFloat

end Float

end Json

end ScriptedFeed
