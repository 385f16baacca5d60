import Mathlib.Algebra.Order.Field.Basic
import Mathlib.Algebra.Order.Field.Rat
import Mathlib.Algebra.Order.Field.Power
import Mathlib.Tactic.FieldSimp
import Mathlib.Tactic.Ring
import RecordQuery.Number.Width
import RecordQuery.Proofs.IntegerTexts

/-!
# Large numbers and their display

A quotient of at least a power of two is rounded to a number of at least that power, with a full
significand. A double of at least `2 ^ 63` is displayed as an integer beyond all integers of 64
bits, although the displayed decimal need not be the number itself.
-/

namespace RecordQuery

namespace Binary

variable {format : FloatFormat}

/-! ### Rounding from below -/

/-- A fraction over a power of two is the quotient over that power. -/
theorem scaled_ratio (numerator denominator : Nat) (exponent : Int) :
    ((scaled numerator denominator exponent).1 : ℚ) /
        (scaled numerator denominator exponent).2 =
      (numerator : ℚ) / denominator / 2 ^ exponent := by
  have two : (2 : ℚ) ≠ 0 := by norm_num
  cases exponent with
  | ofNat n => simp [scaled, div_div]
  | negSucc n =>
    have above : (-Int.negSucc n).toNat = n + 1 := rfl
    have below : (Int.negSucc n).toNat = 0 := rfl
    rw [scaled, above, below, zpow_negSucc]
    simp [mul_div_right_comm]

theorem scaled_pos {denominator : Nat} (below : 0 < denominator) {numerator : Nat}
    (exponent : Int) : 0 < (scaled numerator denominator exponent).2 :=
  Nat.mul_pos below (Nat.pow_pos (by decide))

theorem log2_bounds {n : Nat} (positive : 0 < n) :
    (2 : ℚ) ^ (n.log2 : Int) ≤ n ∧ (n : ℚ) < 2 ^ ((n.log2 : Int) + 1) := by
  constructor
  · exact_mod_cast Nat.log2_self_le positive.ne'
  · exact_mod_cast Nat.lt_log2_self

theorem log2_ratio {numerator denominator : Nat} (above : 0 < numerator) (below : 0 < denominator) :
    (2 : ℚ) ^ ((numerator.log2 : Int) - denominator.log2 - 1) ≤ numerator / denominator ∧
      (numerator : ℚ) / denominator < 2 ^ ((numerator.log2 : Int) - denominator.log2 + 1) := by
  have two : (2 : ℚ) ≠ 0 := by norm_num
  have positive : (0 : ℚ) < denominator := by exact_mod_cast below
  obtain ⟨least, most⟩ := log2_bounds above
  obtain ⟨least', most'⟩ := log2_bounds below
  constructor
  · rw [le_div_iff₀ positive]
    calc (2 : ℚ) ^ ((numerator.log2 : Int) - denominator.log2 - 1) * denominator
        ≤ 2 ^ ((numerator.log2 : Int) - denominator.log2 - 1) *
            2 ^ ((denominator.log2 : Int) + 1) := by gcongr
      _ = 2 ^ (numerator.log2 : Int) := by
          rw [← zpow_add₀ two]
          congr 1
          ring
      _ ≤ numerator := least
  · rw [div_lt_iff₀ positive]
    calc (numerator : ℚ) < 2 ^ ((numerator.log2 : Int) + 1) := most
      _ = 2 ^ ((numerator.log2 : Int) - denominator.log2 + 1) * 2 ^ (denominator.log2 : Int) := by
          rw [← zpow_add₀ two]
          congr 1
          ring
      _ ≤ 2 ^ ((numerator.log2 : Int) - denominator.log2 + 1) * denominator := by gcongr

/-- A positive quotient lies between its power of two and the next one. -/
theorem quotientLog_bounds {numerator denominator : Nat} (above : 0 < numerator)
    (below : 0 < denominator) :
    (2 : ℚ) ^ quotientLog numerator denominator ≤ numerator / denominator ∧
      (numerator : ℚ) / denominator < 2 ^ (quotientLog numerator denominator + 1) := by
  obtain ⟨least, most⟩ := log2_ratio above below
  have ratio := scaled_ratio numerator denominator ((numerator.log2 : Int) - denominator.log2)
  have power : (0 : ℚ) < 2 ^ ((numerator.log2 : Int) - denominator.log2) := by positivity
  have cast_below : (0 : ℚ) < (scaled numerator denominator
      ((numerator.log2 : Int) - denominator.log2)).2 := by exact_mod_cast scaled_pos below _
  unfold quotientLog
  dsimp only
  split
  next less =>
    refine ⟨least, ?_⟩
    have small : (numerator : ℚ) / denominator / 2 ^ ((numerator.log2 : Int) - denominator.log2) <
        1 := by
      rw [← ratio, div_lt_one cast_below]
      exact_mod_cast less
    rw [sub_add_cancel]
    exact (div_lt_one power).mp small
  next more =>
    refine ⟨?_, most⟩
    have large : 1 ≤ (numerator : ℚ) / denominator /
        2 ^ ((numerator.log2 : Int) - denominator.log2) := by
      rw [← ratio, one_le_div cast_below]
      exact_mod_cast Nat.le_of_not_lt more
    exact (one_le_div power).mp large

/-- A quotient that reaches a power of two has at least the logarithm of it. -/
theorem le_quotientLog {numerator denominator : Nat} {k : Int} (below : 0 < denominator)
    (reaches : (2 : ℚ) ^ k ≤ numerator / denominator) : k ≤ quotientLog numerator denominator := by
  have above : 0 < numerator := by
    by_contra zero
    have power : (0 : ℚ) < 2 ^ k := by positivity
    simp [Nat.eq_zero_of_not_pos zero] at reaches
    exact absurd reaches (not_le.mpr power)
  have less := lt_of_le_of_lt reaches (quotientLog_bounds above below).2
  exact Int.lt_add_one_iff.mp ((zpow_lt_zpow_iff_right₀ (by norm_num)).mp less)

/-- The number is finite with a full significand whose first bit stands for at least the power of
two, or it is infinite. -/
def Reaches (k : Int) : Binary format → Prop
  | .finite _ significand exponent =>
    Nat.pow 2 (format.precision - 1) ≤ significand ∧ k ≤ exponent + (format.precision - 1 : Nat)
  | .infinite _ => True
  | .nan => False

/-- Rounding does not fall below a natural that the quotient reaches. -/
theorem le_roundQuotient_of_le {numerator denominator n : Nat} (below : 0 < denominator)
    (reaches : (n : ℚ) ≤ numerator / denominator) : n ≤ roundQuotient numerator denominator := by
  have positive : (0 : ℚ) < denominator := by exact_mod_cast below
  have product : n * denominator ≤ numerator := by
    rw [le_div_iff₀ positive] at reaches
    exact_mod_cast reaches
  exact Nat.le_trans ((Nat.le_div_iff_mul_le below).mpr product) (le_roundQuotient _ _)

/-- On the grid of its format a quotient has a full significand. -/
theorem full_roundQuotient {numerator denominator : Nat} (above : 0 < numerator)
    (below : 0 < denominator) (bits : Nat) :
    let fraction := scaled numerator denominator (quotientLog numerator denominator - bits)
    Nat.pow 2 bits ≤ roundQuotient fraction.1 fraction.2 := by
  have power : (0 : ℚ) < 2 ^ (quotientLog numerator denominator - bits) := by positivity
  -- Divided by the power of its last place, the quotient reaches that of its first one.
  apply le_roundQuotient_of_le (scaled_pos below _)
  rw [scaled_ratio, le_div_iff₀ power, Nat.pow_eq, Nat.cast_pow, Nat.cast_ofNat, ← zpow_natCast,
    ← zpow_add₀ (by norm_num), add_sub_cancel]
  exact (quotientLog_bounds above below).1

/-- Rounding a quotient does not fall below a power of two that the quotient reaches. -/
theorem reaches_round {numerator denominator : Nat} {k : Int} (below : 0 < denominator)
    (least : format.minExponent + (format.precision - 1 : Nat) ≤ k)
    (reaches : (2 : ℚ) ^ k ≤ numerator / denominator) (negative : Bool) :
    (round format negative numerator denominator).Reaches k := by
  have log := le_quotientLog below reaches
  have nonzero : numerator ≠ 0 := by
    rintro rfl
    have power : (0 : ℚ) < 2 ^ k := by positivity
    rw [Nat.cast_zero, zero_div] at reaches
    exact absurd reaches (not_le.mpr power)
  have full := full_roundQuotient (Nat.pos_of_ne_zero nonzero) below (format.precision - 1)
  -- The quotient is too large for the least exponent of the format to matter.
  have exponent : max format.minExponent
      (quotientLog numerator denominator - (format.precision - 1 : Nat)) =
      quotientLog numerator denominator - (format.precision - 1 : Nat) := by
    omega
  unfold round
  rw [if_neg nonzero]
  dsimp only
  rw [exponent]
  split
  · split
    · trivial
    · exact ⟨full, by omega⟩
  · -- Rounded up to the next power, the significand starts again at its least value.
    split
    · trivial
    · exact ⟨Nat.le_refl _, by omega⟩

/-- A power of two as a quotient of powers with natural exponents. -/
theorem pow_ratio (exponent : Int) :
    ((Nat.pow 2 exponent.toNat : Nat) : ℚ) / (Nat.pow 2 (-exponent).toNat : Nat) =
      2 ^ exponent := by
  have ratio := scaled_ratio 1 1 (-exponent)
  simpa [scaled] using ratio

/-- A number that reaches a power of two is at least that power. -/
theorem Reaches.le {negative : Bool} {significand : Nat} {exponent k : Int}
    (reaches : (finite negative significand exponent : Binary format).Reaches k) :
    (2 : ℚ) ^ k ≤ significand * 2 ^ exponent := by
  obtain ⟨full, place⟩ := reaches
  have cast_full : (2 : ℚ) ^ ((format.precision - 1 : Nat) : Int) ≤ significand := by
    exact_mod_cast full
  calc (2 : ℚ) ^ k ≤ 2 ^ (exponent + (format.precision - 1 : Nat)) :=
        zpow_le_zpow_right₀ (by norm_num) place
    _ = 2 ^ ((format.precision - 1 : Nat) : Int) * 2 ^ exponent := by
        rw [add_comm, zpow_add₀ (by norm_num)]
    _ ≤ significand * 2 ^ exponent := by gcongr

theorem reaches_whole {n k : Nat} (least : format.minExponent + (format.precision - 1 : Nat) ≤ 0)
    (reaches : 2 ^ k ≤ n) (negative : Bool) : (round format negative n 1).Reaches k := by
  refine reaches_round (by decide) (by omega) ?_ negative
  rw [Nat.cast_one, div_one, zpow_natCast]
  exact_mod_cast reaches

/-- A product reaches the product of the powers that its factors reach. -/
theorem reaches_times {left right : Binary format} {k l : Int} (first : left.Reaches k)
    (second : right.Reaches l)
    (least : format.minExponent + (format.precision - 1 : Nat) ≤ k + l) :
    (left.times right).Reaches (k + l) := by
  match left, right, first, second with
  | _, .infinite _, _, _ => trivial
  | .infinite _, .finite _ _ _, _, _ => trivial
  | .finite negative significand exponent, .finite _ significand' exponent', first, second =>
    refine reaches_round (Nat.mul_pos (Nat.pow_pos (by decide)) (Nat.pow_pos (by decide))) least
      ?_ negative
    have product : (((significand * (significand' * Nat.pow 2 exponent'.toNat) *
          Nat.pow 2 exponent.toNat : Nat) : ℚ) /
        (Nat.pow 2 (-exponent').toNat * Nat.pow 2 (-exponent).toNat : Nat)) =
        (significand * 2 ^ exponent) * (significand' * 2 ^ exponent') := by
      rw [← pow_ratio exponent, ← pow_ratio exponent']
      push_cast
      ring
    calc (2 : ℚ) ^ (k + l) = 2 ^ k * 2 ^ l := zpow_add₀ (by norm_num) k l
      _ ≤ (significand * 2 ^ exponent) * (significand' * 2 ^ exponent') :=
          mul_le_mul first.le second.le (zpow_nonneg (by norm_num) l)
            (mul_nonneg (Nat.cast_nonneg _) (zpow_nonneg (by norm_num) exponent))
      _ = _ := product.symm

@[simp] theorem isFinite_negate (number : Binary format) :
    number.negate.isFinite = number.isFinite := by
  cases number <;> rfl

@[simp] theorem reaches_negate {number : Binary format} {k : Int} :
    number.negate.Reaches k ↔ number.Reaches k := by
  cases number <;> rfl

end Binary

/-! ### Whole decimals -/

/-- The decimal is a natural number. -/
def Decimal.Is (decimal : Decimal) (n : Nat) : Prop :=
  ∃ zeros : Nat, decimal.exponent = zeros ∧ decimal.digits * Nat.pow 10 zeros = n

/-- Zeros that move into the exponent do not change the number. -/
theorem Decimal.Is.strip {decimal : Decimal} {n : Nat} (whole : decimal.Is n) (limit : Nat) :
    (decimal.strip limit).Is n := by
  induction limit generalizing decimal with
  | zero => exact whole
  | succ limit ih =>
    rw [Decimal.strip]
    split
    next tens =>
      obtain ⟨zeros, exponent, product⟩ := whole
      refine ih ⟨zeros + 1, by simp [exponent], ?_⟩
      -- Nothing is lost, as the last digit is a zero.
      have digits : decimal.digits / 10 * 10 = decimal.digits := by omega
      calc decimal.digits / 10 * Nat.pow 10 (zeros + 1)
          = decimal.digits / 10 * 10 * Nat.pow 10 zeros := by
            rw [Nat.pow_eq, Nat.pow_eq, pow_succ']
            ring
        _ = n := by rw [digits, product]
    next => exact whole

namespace Shortest

theorem holds_low {bounds : Interval} {n : Nat} (inside : bounds.holds n = true) :
    bounds.low ≤ 4 * n := by
  unfold Interval.holds at inside
  split at inside
  · simp only [Bool.and_eq_true, decide_eq_true_eq] at inside
    exact inside.1
  · simp only [Bool.and_eq_true, decide_eq_true_eq] at inside
    exact Nat.le_of_lt inside.1

/-- What is taken from a grid lies in the interval. -/
theorem holds_onGrid {tie : Tie} {bounds : Interval} {places digits : Nat}
    (found : onGrid tie bounds places = some digits) :
    bounds.holds (digits * Nat.pow 10 places) = true := by
  unfold onGrid at found
  dsimp only at found
  split at found
  next down up =>
    split at found
    · cases found; exact down
    · cases found; exact up
    · split at found
      · cases found; exact up
      · cases found
        split
        · exact down
        · exact up
  next down _ => cases found; exact down
  next _ up => cases found; exact up
  next => cases found

/-- The decimal that is found for a whole number is whole and not below its interval. -/
theorem low_le_search (tie : Tie) {bounds : Interval} (whole : bounds.exponent = 0)
    (least : bounds.low ≤ 4 * bounds.exact) (places : Nat) :
    ∃ n, (search tie bounds places).Is n ∧ bounds.low ≤ 4 * n := by
  -- The search goes to finer grids as long as nothing is found, at last to that of the number.
  induction places with
  | zero => exact ⟨bounds.exact, ⟨0, by simp [search, whole], by simp [search]⟩, least⟩
  | succ places ih =>
    rw [search]
    split
    next digits found =>
      exact ⟨_, ⟨places + 1, by simp [whole], rfl⟩, holds_low (holds_onGrid found)⟩
    next => exact ih

/-- The interval of a whole number holds the number itself, and is as low as half a place below
it at the least. -/
theorem interval_whole (format : FloatFormat) (significand : Nat) {exponent : Int}
    (whole : 0 ≤ exponent) :
    let bounds := interval format significand exponent
    bounds.exponent = 0 ∧ bounds.low ≤ 4 * bounds.exact ∧
      (4 * significand - 2) * Nat.pow 2 exponent.toNat ≤ bounds.low := by
  have factor : (if exponent < 0 then Nat.pow 5 (-exponent).toNat else Nat.pow 2 exponent.toNat) =
      Nat.pow 2 exponent.toNat := if_neg (by omega)
  refine ⟨by simp [interval, whole], ?_, ?_⟩
  · simp only [interval, factor]
    rw [← Nat.mul_assoc]
    exact Nat.mul_le_mul_right _ (Nat.sub_le _ _)
  · simp only [interval, factor]
    apply Nat.mul_le_mul_right
    split <;> omega

end Shortest

/-- The shortest decimal of a large number is whole and lies beyond `2 ^ 63`. -/
theorem shortest_large {significand : Nat} {exponent : Int}
    (full : Nat.pow 2 52 ≤ significand) (large : 11 ≤ exponent) :
    ∃ n, (shortest .upward .double significand exponent).Is n ∧ 2 ^ 63 < n := by
  by_cases least : significand = Nat.pow 2 52 ∧ exponent = 11
  · -- The least such number is shown with other digits at its end.
    obtain ⟨rfl, rfl⟩ := least
    exact ⟨9223372036854776000, ⟨3, by decide +kernel, by decide +kernel⟩, by decide⟩
  have filled : significand ≠ 0 := by
    rintro rfl
    exact absurd full (by decide)
  obtain ⟨whole, holds, low⟩ :=
    Shortest.interval_whole .double significand (show 0 ≤ exponent by omega)
  obtain ⟨n, found, inside⟩ := Shortest.low_le_search .upward whole holds
    ((Digits.decimal (Shortest.interval .double significand exponent).exact).length - 1)
  refine ⟨n, ?_, ?_⟩
  · rw [shortest, if_neg filled]
    exact found.strip _
  · -- Either the significand or the exponent is above its least value.
    have full : 4503599627370496 ≤ significand := full
    have beyond : 4 * 2 ^ 63 < (4 * significand - 2) * Nat.pow 2 exponent.toNat := by
      by_cases first : exponent = 11
      · have next : significand ≠ 4503599627370496 := fun same => least ⟨same, first⟩
        subst first
        calc 4 * 2 ^ 63 < (4 * 4503599627370497 - 2) * Nat.pow 2 11 := by decide
          _ ≤ (4 * significand - 2) * Nat.pow 2 11 := Nat.mul_le_mul_right _ (by omega)
      · calc 4 * 2 ^ 63 < (4 * 4503599627370496 - 2) * Nat.pow 2 12 := by decide
          _ ≤ (4 * significand - 2) * Nat.pow 2 exponent.toNat :=
            Nat.mul_le_mul (by omega) (Nat.pow_le_pow_right (by decide) (by omega))
    omega

/-! ### Displayed integers -/

/-- A whole decimal is laid out as its digits. -/
theorem Decimal.Is.natural?_positional {decimal : Decimal} {n : Nat} (whole : decimal.Is n) :
    Numeral.natural? (Binary.positional decimal) = some n := by
  obtain ⟨zeros, exponent, product⟩ := whole
  have text : Binary.positional decimal =
      Digits.decimal decimal.digits ++ List.replicate zeros '0' := by
    simp [Binary.positional, exponent]
  rw [text]
  refine Numeral.natural?_eq_some.mpr ⟨by simp [Digits.decimal_ne_nil], ?_, ?_⟩
  · intro c member
    rcases List.mem_append.mp member with here | zero
    · exact Digits.isDigit_of_mem_decimal here
    · exact List.eq_of_mem_replicate zero ▸ rfl
  · calc Digits.natural 0 (Digits.decimal decimal.digits ++ List.replicate zeros '0')
        = Nat.pow 10 zeros * decimal.digits := by
          rw [Digits.natural_append_zeros, Digits.natural_decimal]
      _ = decimal.digits * Nat.pow 10 zeros := Nat.mul_comm _ _
      _ = n := product

/-- A double of at least `2 ^ 63` is displayed as an integer that 64 bits do not hold. -/
theorem Binary.writes_display {number : Double} (finite : number.isFinite = true)
    (large : number.Reaches 63) :
    ∃ n, Numeral.Writes number.display.toList n ∧ Width.int64? n = none := by
  cases number with
  | finite negative significand exponent =>
    obtain ⟨full, place⟩ := large
    have exponent_large : 11 ≤ exponent := by
      change (63 : Int) ≤ exponent + (52 : Nat) at place
      omega
    obtain ⟨n, whole, beyond⟩ := shortest_large full exponent_large
    have digits := whole.natural?_positional
    cases negative with
    | false =>
      refine ⟨n, ⟨_, n, digits, .inl ⟨String.toList_ofList, rfl⟩⟩, if_neg ?_⟩
      have greatest : Int64.maxValue.toInt = 9223372036854775807 := by decide
      omega
    | true =>
      refine ⟨-n, ⟨_, n, digits, .inr ⟨String.toList_ofList, rfl⟩⟩, if_neg ?_⟩
      have least : Int64.minValue.toInt = -9223372036854775808 := by decide
      omega
  | infinite _ => cases finite
  | nan => cases finite

end RecordQuery
