import RecordQuery.Number.Binary
import RecordQuery.Number.Digits

/-!
# Numbers in text

Integers are an optional sign and decimal digits. Real numbers are an optional sign, digits with
an optional point among or around them and an optional power of ten, or a word for infinity or a
non-number; their value is the number of the format nearest to the written decimal.
-/

namespace RecordQuery.Numeral

/-- The natural written by digits alone, at least one. -/
def natural? (text : List Char) : Option Nat :=
  if text.isEmpty || !text.all Char.isDigit then none else some (Digits.natural 0 text)

/-- The sign in front of a number, true for minus, and the text behind it. -/
def sign : List Char → Bool × List Char
  | '-' :: rest => (true, rest)
  | '+' :: rest => (false, rest)
  | text => (false, text)

/-- The integer written by a text: an optional sign and at least one digit. -/
def integer? (text : List Char) : Option Int :=
  let (negative, body) := sign text
  (natural? body).map fun n => if negative then -(n : Int) else n

/-! ### Real numbers -/

/-- The power of ten at the end of a real number: nothing, or a mark and an integer. -/
def power? : List Char → Option Int
  | [] => some 0
  | c :: rest => if c = 'e' ∨ c = 'E' then integer? rest else none

/-- The digits of a real number without its sign, and the power of ten of the last of them. -/
def decimal? (text : List Char) : Option (List Char × Int) :=
  let whole := text.takeWhile Char.isDigit
  match text.dropWhile Char.isDigit with
  | '.' :: rest =>
    let fraction := rest.takeWhile Char.isDigit
    let digits := whole ++ fraction
    if digits.isEmpty then none
    else (power? (rest.dropWhile Char.isDigit)).map fun n => (digits, n - fraction.length)
  | rest => if whole.isEmpty then none else (power? rest).map fun n => (whole, n)

/-- The number nearest to `digits * 10 ^ exponent`. A decimal whose leading digit lies far outside
of every format is infinite or zero without computing the power. -/
def nearest (format : FloatFormat) (negative : Bool) (digits : List Char) (exponent : Int) :
    Binary format :=
  let value := Digits.natural 0 digits
  let point := exponent + (Digits.decimal value).length
  if value = 0 ∨ point < -400 then Binary.round format negative 0 1
  else if 400 < point then .infinite negative
  else Binary.round format negative (value * Nat.pow 10 exponent.toNat)
    (Nat.pow 10 (-exponent).toNat)

/-- The number written by a text. -/
def real? (format : FloatFormat) (text : List Char) : Option (Binary format) :=
  let (negative, body) := sign text
  let word := String.ofList (body.map Char.toLower)
  if word = "inf" ∨ word = "infinity" then some (.infinite negative)
  else if word = "nan" then some .nan
  else (decimal? body).map fun (digits, exponent) => nearest format negative digits exponent

end RecordQuery.Numeral
