import RecordQuery.Number.Shortest

/-!
# Written forms of numbers

The shortest digits of a number are laid out in one of two ways: always positionally, which is how
values are displayed, or with an exponent for large and small numbers, which is how they stand in
written documents.
-/

namespace RecordQuery.Binary

variable {format : FloatFormat}

/-- Digits with the point set `exponent` places after their end, with no point in a whole number. -/
def positional (decimal : Decimal) : List Char :=
  let digits := Digits.decimal decimal.digits
  if 0 ≤ decimal.exponent then digits ++ List.replicate decimal.exponent.toNat '0'
  else
    let places := (-decimal.exponent).toNat
    if places < digits.length then
      digits.take (digits.length - places) ++ '.' :: digits.drop (digits.length - places)
    else
      '0' :: '.' :: (List.replicate (places - digits.length) '0' ++ digits)

/-- Digits with the point after the first one and the power of ten, whose sign is always given. -/
def scientific (decimal : Decimal) : List Char :=
  let digits := Digits.decimal decimal.digits
  let power := decimal.exponent + (digits.length - 1 : Nat)
  let fraction := match digits with
    | first :: second :: more => first :: '.' :: second :: more
    | short => short
  fraction ++ 'e' :: (if power < 0 then '-' else '+') :: Digits.decimal power.natAbs

private def signed (negative : Bool) (text : List Char) : List Char :=
  if negative then '-' :: text else text

/-- The displayed text: the shortest digits, the upper of two equally near ones, never an
exponent. -/
def display : Binary format → String
  | .finite negative significand exponent =>
    String.ofList (signed negative (positional (shortest .upward format significand exponent)))
  | .infinite negative => String.ofList (signed negative "inf".toList)
  | .nan => "NaN"

/-- Is the decimal written with an exponent in a document? It is when its leading digit stands for
at least `10 ^ 16` or for less than `10 ^ (-5)`. -/
def isScientific (decimal : Decimal) : Bool :=
  let point := decimal.exponent + (Digits.decimal decimal.digits).length
  decide (16 < point) || decide (point < -4)

/-- The text in a document: the shortest digits, the even one of two equally near ones, with a
point or an exponent always. A number that is not finite has no such text. -/
def documentText? : Binary format → Option String
  | .finite negative significand exponent =>
    let decimal := shortest .toEven format significand exponent
    let body :=
      if isScientific decimal then scientific decimal
      else if 0 ≤ decimal.exponent then positional decimal ++ ['.', '0']
      else positional decimal
    some (String.ofList (signed negative body))
  | .infinite _ => none
  | .nan => none

end RecordQuery.Binary
