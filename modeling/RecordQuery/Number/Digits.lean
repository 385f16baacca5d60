/-!
# Digits

Natural numbers and integers in base ten, and single hexadecimal digits.
-/

namespace RecordQuery.Digits

def decimal (n : Nat) : List Char := Nat.toDigits 10 n

/-- The decimal digits of a natural, with zeros in front up to a width. -/
def padded (width n : Nat) : List Char :=
  List.replicate (width - (decimal n).length) '0' ++ decimal n

/-- The decimal digits of an integer behind its sign, which only a negative one shows. -/
def integer (n : Int) : List Char :=
  if n < 0 then '-' :: decimal n.natAbs else decimal n.natAbs

/-- A hexadecimal digit in small letters. -/
def hex (n : Nat) : Char :=
  if n < 10 then Char.ofNat ('0'.toNat + n) else Char.ofNat ('a'.toNat + n - 10)

/-- The value of a hexadecimal digit in either case. -/
def hexValue? (c : Char) : Option Nat :=
  if '0' ≤ c ∧ c ≤ '9' then some (c.toNat - '0'.toNat)
  else if 'a' ≤ c ∧ c ≤ 'f' then some (c.toNat - 'a'.toNat + 10)
  else if 'A' ≤ c ∧ c ≤ 'F' then some (c.toNat - 'A'.toNat + 10)
  else none

def value (c : Char) : Nat := c.toNat - '0'.toNat

/-- The natural whose digits continue those of `start`. -/
def natural (start : Nat) (digits : List Char) : Nat :=
  digits.foldl (fun n c => 10 * n + value c) start

theorem natural_decimal (n : Nat) : natural 0 (decimal n) = n :=
  Nat.ofDigitChars_toDigits (by decide) (by decide)

theorem decimal_ne_nil (n : Nat) : decimal n ≠ [] := Nat.toDigits_ne_nil

theorem hexValue?_hex : ∀ n < 16, hexValue? (hex n) = some n := by decide

end RecordQuery.Digits
