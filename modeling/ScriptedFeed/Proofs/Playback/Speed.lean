import ScriptedFeed.Proofs.Number.Value
import ScriptedFeed.Proofs.Playback.Delay

/-!
# Playing faster and slower

Whatever number is asked for as a speed, delays are divided by the number from a tenth to ten that
is nearest to it. Of two speeds the faster one is therefore not played as the slower one, and as a
quotient is rounded in the order of the exact quotients, no delay takes longer at it.
-/

namespace ScriptedFeed

namespace Speed

theorem slowest_le_fastest : slowest.value ≤ fastest.value :=
  Magnitude.value_le_value_iff.2 (by decide +kernel)

/-- What is played is the number from a tenth to ten that is nearest to what is asked for. -/
theorem value_clamp {number : Binary64} {place : WithBot (WithTop ℚ)}
    (found : number.place? = some place) :
    (((clamp number).factor.value : WithTop ℚ) : WithBot (WithTop ℚ)) =
      max ((slowest.value : WithTop ℚ) : WithBot (WithTop ℚ))
        (min place (fastest.value : WithTop ℚ)) := by
  have ordered := slowest_le_fastest
  cases number with
  | nan => cases found
  | infinite negative =>
      cases negative <;> cases found
      · simp [clamp, greatest, ordered]
      · simp [clamp, least]
  | finite negative magnitude =>
      cases negative <;> cases found
      · simp only [clamp]
        split_ifs with aboveLeast belowGreatest
        · have slowest_le := Magnitude.value_le_value_iff.2 aboveLeast
          have le_fastest := Magnitude.value_le_value_iff.2 belowGreatest
          simp [slowest_le, le_fastest]
        · have fastest_le : fastest.value ≤ magnitude.value :=
            Magnitude.value_le_value_iff.2 (Nat.le_of_not_le belowGreatest)
          simp [greatest, fastest_le, ordered]
        · have le_slowest : magnitude.value ≤ slowest.value :=
            Magnitude.value_le_value_iff.2 (Nat.le_of_not_le aboveLeast)
          simp [least, le_slowest]
      · have le_slowest : -magnitude.value ≤ slowest.value :=
          (neg_nonpos.2 magnitude.value_nonneg).trans slowest.value_nonneg
        have place_le : (((-magnitude.value : ℚ) : WithTop ℚ) : WithBot (WithTop ℚ)) ≤
            (slowest.value : WithTop ℚ) :=
          WithBot.coe_le_coe.2 (WithTop.coe_le_coe.2 le_slowest)
        exact (max_eq_left ((min_le_left _ _).trans place_le)).symm

theorem clamp_mono {slower faster : Binary64} (atMost : slower.AtMost faster) :
    (clamp slower).factor.units ≤ (clamp faster).factor.units := by
  rcases atMost with ⟨below, above, slower_eq, faster_eq, le⟩
  rw [← Magnitude.value_le_value_iff, ← WithTop.coe_le_coe, ← WithBot.coe_le_coe,
    value_clamp slower_eq, value_clamp faster_eq]
  exact max_le_max le_rfl (min_le_min le le_rfl)

/-- No delay takes longer at a faster speed. -/
theorem nanosecondsOf_anti {slower faster : Speed} (milliseconds : Nat)
    (le : slower.factor.units ≤ faster.factor.units) :
    faster.nanosecondsOf milliseconds ≤ slower.nanosecondsOf milliseconds := by
  apply roundHalfEven_mono
  apply Nat.mul_le_mul_right
  apply roundUnits_le_roundUnits faster.factor_pos slower.factor_pos
  exact Nat.mul_le_mul_left _ le

theorem scaledNanoseconds_le (speed : Speed) (delay : UInt64) :
    speed.scaledNanoseconds delay ≤ nanosecondCount * 2 ^ 60 := by
  rcases speed.exists_quotient delay with ⟨seconds, quotient, -, -, count_eq, le⟩
  rwa [scaledNanoseconds_eq, ← count_eq]

end Speed

/--
At whatever number as a speed and for whatever delay, the delay in seconds and its quotient by the
speed are numbers, the speed is not zero, and the quotient is brought to nanoseconds that can be
added to an instant. A longer delay does not take less time, and a faster speed not more.
-/
theorem Speed.scaled_delays_are_safe_and_ordered :
    (∀ (number : Binary64) (delay : UInt64), ∃ seconds quotient : Magnitude,
      Speed.seconds? delay = some seconds ∧ 0 < (Speed.clamp number).factor.units ∧
        seconds.div? (Speed.clamp number).factor = some quotient ∧
        (Speed.clamp number).scaledNanoseconds? delay =
          some (quotient.roundedCount Speed.nanosecondCount) ∧
        ∀ instant, instant / Speed.nanosecondCount < 2 ^ 62 →
          (instant + (Speed.clamp number).scaledNanoseconds delay) / Speed.nanosecondCount <
            2 ^ 63) ∧
    (∀ (number : Binary64) (shorter longer : UInt64), shorter ≤ longer →
      (Speed.clamp number).scaledNanoseconds shorter ≤
        (Speed.clamp number).scaledNanoseconds longer) ∧
    (∀ (slower faster : Binary64) (delay : UInt64), slower.AtMost faster →
      (Speed.clamp faster).scaledNanoseconds delay ≤
        (Speed.clamp slower).scaledNanoseconds delay) := by
  refine ⟨?_, ?_, ?_⟩
  · intro number delay
    rcases (Speed.clamp number).exists_quotient delay with
      ⟨seconds, quotient, seconds_eq, quotient_eq, count_eq, -⟩
    refine ⟨seconds, quotient, seconds_eq, Speed.factor_pos _, quotient_eq, ?_, ?_⟩
    · rw [Speed.scaledNanoseconds?_eq, count_eq]
    · intro instant instant_lt
      have scaled_le := (Speed.clamp number).scaledNanoseconds_le delay
      simp only [Speed.nanosecondCount] at instant_lt scaled_le ⊢
      omega
  · intro number shorter longer le
    exact (Speed.clamp number).scaledNanoseconds_mono le
  · intro slower faster delay atMost
    rw [Speed.scaledNanoseconds_eq, Speed.scaledNanoseconds_eq]
    exact Speed.nanosecondsOf_anti delay.toNat (Speed.clamp_mono atMost)

/--
The longest delay at the slowest speed, after the last nanosecond of the last instant; two delays
whose seconds have more than 53 bits; and infinitely fast beside negative zero.
-/
theorem Speed.scaled_delays_are_safe_and_ordered_at_bounds :
    let longest : UInt64 := 0xFFFFFFFFFFFFFFFF
    let negativeZero : Binary64 := .finite true .zero
    (2 ^ 62 * Speed.nanosecondCount - 1 +
        (Speed.clamp (.infinite true)).scaledNanoseconds longest) / Speed.nanosecondCount < 2 ^ 63 ∧
      (Speed.clamp .nan).scaledNanoseconds 9007199254740992999 ≤
        (Speed.clamp .nan).scaledNanoseconds 9007199254740993000 ∧
      (Speed.clamp (.infinite false)).scaledNanoseconds longest ≤
        (Speed.clamp negativeZero).scaledNanoseconds longest := by
  intro longest negativeZero
  rcases Speed.scaled_delays_are_safe_and_ordered with ⟨safe, longer_mono, faster_anti⟩
  rcases safe (.infinite true) longest with ⟨seconds, quotient, -, -, -, -, can_be_added⟩
  refine ⟨can_be_added _ (by decide), longer_mono .nan _ _ (by decide), ?_⟩
  exact faster_anti negativeZero (.infinite false) longest ⟨_, _, rfl, rfl, le_top⟩

end ScriptedFeed
