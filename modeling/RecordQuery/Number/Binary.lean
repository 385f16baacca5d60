/-!
# Binary floating-point numbers

A number of a format is a sign, a significand and the power of two of its last place, or it is
infinite or not a number. Arithmetic computes the exact quotient of two naturals and rounds it once,
to nearest with ties to even; everything is exact natural and integer arithmetic.
-/

namespace RecordQuery

/-- A binary format: the bits of a full significand, and the least and the greatest power of two
that its last place can stand for. -/
structure FloatFormat where
  precision : Nat
  minExponent : Int
  maxExponent : Int
  deriving DecidableEq, Repr

namespace FloatFormat

def single : FloatFormat := ⟨24, -149, 104⟩

def double : FloatFormat := ⟨53, -1074, 971⟩

end FloatFormat

/-- A number in a binary format. A finite one is `significand * 2 ^ exponent` with its sign; the
numbers made here have a full significand unless the exponent is the least. -/
inductive Binary (format : FloatFormat) where
  | finite (negative : Bool) (significand : Nat) (exponent : Int)
  | infinite (negative : Bool)
  | nan
  deriving DecidableEq, Repr

abbrev Single := Binary .single

abbrev Double := Binary .double

namespace Binary

variable {format : FloatFormat}

/-- Neither infinite nor a non-number. -/
def isFinite : Binary format → Bool
  | .finite .. => true
  | .infinite _ => false
  | .nan => false

/-- The quotient rounded to the nearest natural, a tie to the even one. -/
def roundQuotient (numerator denominator : Nat) : Nat :=
  let quotient := numerator / denominator
  let twice := 2 * (numerator % denominator)
  if twice < denominator then quotient
  else if denominator < twice then quotient + 1
  else quotient + quotient % 2

/-- The quotient as a fraction over a power of two: numerator and denominator of
`numerator / denominator / 2 ^ exponent`. -/
def scaled (numerator denominator : Nat) (exponent : Int) : Nat × Nat :=
  (numerator * Nat.pow 2 (-exponent).toNat, denominator * Nat.pow 2 exponent.toNat)

/-- The greatest power of two that a positive quotient reaches. The difference of the two binary
logarithms is that power or one more. -/
def quotientLog (numerator denominator : Nat) : Int :=
  let estimate := (numerator.log2 : Int) - denominator.log2
  let (above, below) := scaled numerator denominator estimate
  if above < below then estimate - 1 else estimate

/-- The number of the format nearest to a quotient, a tie to the even significand. Beyond the
largest number it is infinite. -/
def round (format : FloatFormat) (negative : Bool) (numerator denominator : Nat) : Binary format :=
  if numerator = 0 then .finite negative 0 format.minExponent
  else
    let exponent := max format.minExponent
      (quotientLog numerator denominator - (format.precision - 1 : Nat))
    let (above, below) := scaled numerator denominator exponent
    let significand := roundQuotient above below
    if significand < Nat.pow 2 format.precision then
      if format.maxExponent < exponent then .infinite negative
      else .finite negative significand exponent
    else if format.maxExponent < exponent + 1 then .infinite negative
    else .finite negative (Nat.pow 2 (format.precision - 1)) (exponent + 1)

/-- The number nearest to a natural. -/
def ofNat (format : FloatFormat) (n : Nat) : Binary format := round format false n 1

/-- The number nearest to an integer. -/
def ofInt (format : FloatFormat) (n : Int) : Binary format :=
  round format (decide (n < 0)) n.natAbs 1

def negate : Binary format → Binary format
  | .finite negative significand exponent => .finite (!negative) significand exponent
  | .infinite negative => .infinite (!negative)
  | .nan => .nan

/-- Is the number zero, of either sign? -/
def isZero : Binary format → Bool
  | .finite _ significand _ => significand == 0
  | _ => false

/-- A finite number times `numerator / denominator`, rounded once. What is not finite stays. -/
def scale (number : Binary format) (numerator denominator : Nat) : Binary format :=
  match number with
  | .finite negative significand exponent =>
    round format negative (significand * numerator * Nat.pow 2 exponent.toNat)
      (denominator * Nat.pow 2 (-exponent).toNat)
  | other => other

/-- The product of two numbers, the second of them positive and finite. -/
def times (left right : Binary format) : Binary format :=
  match right with
  | .finite _ significand exponent =>
    left.scale (significand * Nat.pow 2 exponent.toNat) (Nat.pow 2 (-exponent).toNat)
  | other => other

/-- The quotient of two numbers, the second of them positive and finite. -/
def dividedBy (left right : Binary format) : Binary format :=
  match right with
  | .finite _ significand exponent =>
    left.scale (Nat.pow 2 (-exponent).toNat) (significand * Nat.pow 2 exponent.toNat)
  | other => other

/-- The number of another format nearest to this one. -/
def convert (target : FloatFormat) : Binary format → Binary target
  | .finite negative significand exponent =>
    round target negative (significand * Nat.pow 2 exponent.toNat) (Nat.pow 2 (-exponent).toNat)
  | .infinite negative => .infinite negative
  | .nan => .nan

/-- A rounded quotient is the floor or the one above it. -/
theorem le_roundQuotient (numerator denominator : Nat) :
    numerator / denominator ≤ roundQuotient numerator denominator := by
  simp only [roundQuotient]
  split
  · exact Nat.le_refl _
  · split
    · exact Nat.le_succ _
    · exact Nat.le_add_right _ _

end Binary

end RecordQuery
