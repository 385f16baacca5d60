import RecordQuery.Number.Reading

/-!
# Bounds of rounded numbers

Rounding never leaves its format: what is finite has a significand and a power of two inside the
format, and a quotient of moderate size is finite. So a number of 32 bits that was read from a text
stays finite when it is widened to 64 bits.
-/

namespace RecordQuery

namespace Binary

variable {format : FloatFormat}

/-- The significand and the power of two of a finite number are inside its format. -/
def IsWithinFormat : Binary format → Prop
  | .finite _ significand exponent =>
    significand < Nat.pow 2 format.precision ∧ exponent ≤ format.maxExponent
  | .infinite _ => True
  | .nan => True

theorem isWithinFormat_round (ordered : format.minExponent ≤ format.maxExponent)
    (wide : 0 < format.precision) (negative : Bool) (numerator denominator : Nat) :
    (round format negative numerator denominator).IsWithinFormat := by
  have positive : 0 < Nat.pow 2 format.precision := Nat.pow_pos (by decide)
  unfold round
  split
  · exact ⟨positive, ordered⟩
  · dsimp only
    split
    next small =>
      split
      · trivial
      next inside => exact ⟨small, by omega⟩
    next =>
      split
      · trivial
      next inside => exact ⟨Nat.pow_lt_pow_right (by decide) (by omega), by omega⟩

theorem quotientLog_le (numerator denominator : Nat) :
    quotientLog numerator denominator ≤ numerator.log2 := by
  unfold quotientLog
  dsimp only
  split <;> omega

/-- A quotient whose numerator has `size` bits is finite when the format has room for them. -/
theorem isFinite_round {numerator size : Nat} (bound : numerator < Nat.pow 2 size)
    (wide : 0 < format.precision) (least : format.minExponent < format.maxExponent)
    (room : (size : Int) < format.maxExponent + format.precision) (negative : Bool)
    (denominator : Nat) : (round format negative numerator denominator).isFinite = true := by
  unfold round
  split
  · rfl
  next nonzero =>
    -- A quotient has no more bits than its numerator, so the exponent stays below its bound.
    have bits : numerator.log2 < size := (Nat.log2_lt nonzero).mpr bound
    have log := quotientLog_le numerator denominator
    dsimp only
    split
    · split
      · omega
      · rfl
    · split
      · omega
      · rfl

/-- A number of 32 bits that is inside its format is finite in 64 bits too. -/
theorem isFinite_convert_double {number : Single} (finite : number.isFinite = true)
    (within : number.IsWithinFormat) : (number.convert .double).isFinite = true := by
  cases number with
  | finite negative significand exponent =>
    obtain ⟨small, moderate⟩ := within
    have scale : exponent.toNat ≤ 104 := by
      have : exponent ≤ 104 := moderate
      omega
    -- Written as an integer, a number of 32 bits has at most 128 bits.
    have product : significand * Nat.pow 2 exponent.toNat < Nat.pow 2 (24 + 104) := by
      calc significand * Nat.pow 2 exponent.toNat
          < Nat.pow 2 24 * Nat.pow 2 exponent.toNat :=
            Nat.mul_lt_mul_of_pos_right small (Nat.pow_pos (by decide))
        _ ≤ Nat.pow 2 24 * Nat.pow 2 104 :=
            Nat.mul_le_mul_left _ (Nat.pow_le_pow_right (by decide) scale)
        _ = Nat.pow 2 (24 + 104) := (Nat.pow_add 2 24 104).symm
    exact isFinite_round product (by decide) (by decide) (by decide) _ _
  | infinite _ => simp [isFinite] at finite
  | nan => simp [isFinite] at finite

end Binary

/-- A number read from a text is inside its format. -/
theorem Numeral.isWithinFormat_of_real? {format : FloatFormat} {text : List Char}
    {number : Binary format} (ordered : format.minExponent ≤ format.maxExponent)
    (wide : 0 < format.precision) (found : real? format text = some number) :
    number.IsWithinFormat := by
  unfold real? at found
  dsimp only at found
  split at found
  · cases found; trivial
  split at found
  · cases found; trivial
  obtain ⟨⟨digits, exponent⟩, _, rfl⟩ := Option.map_eq_some_iff.mp found
  unfold nearest
  dsimp only
  split
  · exact Binary.isWithinFormat_round ordered wide _ _ _
  split
  · trivial
  · exact Binary.isWithinFormat_round ordered wide _ _ _

end RecordQuery
