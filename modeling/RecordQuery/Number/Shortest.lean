import RecordQuery.Number.Binary
import RecordQuery.Number.Digits

/-!
# The shortest decimal that reads back

A finite binary number stands for the interval of reals that round to it. Of the decimals in that
interval the ones with fewest digits are wanted, and of those the nearest. The exact decimal
expansion of the number has finitely many digits, so the search drops as many of them as it can:
it tries the two neighbours on ever finer decimal grids and ends, at the latest, at the number
itself.
-/

namespace RecordQuery

/-- A natural number of decimal digits and the power of ten of the last one. -/
structure Decimal where
  digits : Nat
  exponent : Int
  deriving DecidableEq, Repr

/-- Which of two equally near decimals is taken. -/
inductive Tie where
  | upward
  | toEven
  deriving DecidableEq, Repr

namespace Decimal

/-- Moves the zeros at the end of the digits into the exponent, at most `limit` of them. -/
def strip : (limit : Nat) → Decimal → Decimal
  | 0, decimal => decimal
  | limit + 1, decimal =>
    if decimal.digits % 10 = 0 then strip limit ⟨decimal.digits / 10, decimal.exponent + 1⟩
    else decimal

end Decimal

namespace Shortest

/-- The reals that round to a number, as multiples of a quarter of `10 ^ exponent`. -/
structure Interval where
  -- The number itself, as a multiple of `10 ^ exponent`.
  exact : Nat
  exponent : Int
  low : Nat
  high : Nat
  -- Do the two ends round to the number too?
  closed : Bool

/-- The rounding interval of `significand * 2 ^ exponent`. Below a power of two the gap to the
next number is half of the gap above it. -/
def interval (format : FloatFormat) (significand : Nat) (exponent : Int) : Interval :=
  let factor := if exponent < 0 then Nat.pow 5 (-exponent).toNat else Nat.pow 2 exponent.toNat
  let narrow := significand = Nat.pow 2 (format.precision - 1) ∧ format.minExponent < exponent
  { exact := significand * factor
    exponent := min exponent 0
    low := (4 * significand - if narrow then 1 else 2) * factor
    high := (4 * significand + 2) * factor
    closed := significand % 2 = 0 }

/-- Does a multiple of the interval's unit lie in it? -/
def Interval.holds (bounds : Interval) (n : Nat) : Bool :=
  if bounds.closed then bounds.low ≤ 4 * n && 4 * n ≤ bounds.high
  else bounds.low < 4 * n && 4 * n < bounds.high

/-- The nearest decimal of the interval that is a multiple of `10 ^ places` units, if there is
one. -/
def onGrid (tie : Tie) (bounds : Interval) (places : Nat) : Option Nat :=
  let grid := Nat.pow 10 places
  let down := bounds.exact / grid
  let up := down + 1
  match bounds.holds (down * grid), bounds.holds (up * grid) with
  | true, true =>
    match compare (2 * bounds.exact) ((down + up) * grid) with
    | .lt => some down
    | .gt => some up
    | .eq =>
      match tie with
      | .upward => some up
      | .toEven => some (if down % 2 = 0 then down else up)
  | true, false => some down
  | false, true => some up
  | false, false => none

/-- The first decimal found on the grids from `places` down to the single unit, which is the
number itself. -/
def search (tie : Tie) (bounds : Interval) : (places : Nat) → Decimal
  | 0 => ⟨bounds.exact, bounds.exponent⟩
  | places + 1 =>
    match onGrid tie bounds (places + 1) with
    | some digits => ⟨digits, bounds.exponent + (places + 1 : Nat)⟩
    | none => search tie bounds places

end Shortest

/-- The fewest decimal digits that read back as `significand * 2 ^ exponent`, without zeros at
their end. Zero has the single digit 0. -/
def shortest (tie : Tie) (format : FloatFormat) (significand : Nat) (exponent : Int) : Decimal :=
  if significand = 0 then ⟨0, 0⟩
  else
    let bounds := Shortest.interval format significand exponent
    let found := Shortest.search tie bounds ((Digits.decimal bounds.exact).length - 1)
    found.strip (Digits.decimal found.digits).length

end RecordQuery
