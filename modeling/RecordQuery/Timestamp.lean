import RecordQuery.Calendar
import RecordQuery.Number.Digits

/-!
# Timestamps

A timestamp counts microseconds from the start of 1970. Its text is a date and a time of day with a
fraction of none, three or six digits and the offset zero. A text that is read may have any
fraction, of which the microseconds count, and any offset of less than a day.
-/

namespace RecordQuery.Timestamp

def second : Int := 1000000

def day : Int := 86400 * second

/-- The first day that has a text. -/
def firstDay : Int := CivilDate.toDays ⟨-262143, 1, 1⟩

/-- The last day that has a text. -/
def lastDay : Int := CivilDate.toDays ⟨262142, 12, 31⟩

/-! ### Writing -/

/-- A year of at least four digits, with a sign outside of 0 to 9999. -/
def yearText (year : Int) : List Char :=
  if 0 ≤ year ∧ year ≤ 9999 then Digits.padded 4 year.toNat
  else (if year < 0 then '-' else '+') :: Digits.padded 4 year.natAbs

/-- The fraction of a second, of none, three or six digits. -/
def fractionText (micros : Nat) : List Char :=
  if micros = 0 then []
  else if micros % 1000 = 0 then '.' :: Digits.padded 3 (micros / 1000)
  else '.' :: Digits.padded 6 micros

def dateText (date : CivilDate) : List Char :=
  yearText date.year ++ '-' :: Digits.padded 2 date.month ++ '-' :: Digits.padded 2 date.day

/-- A time of day, given in microseconds. -/
def timeText (micros : Nat) : List Char :=
  let seconds := micros / 1000000
  Digits.padded 2 (seconds / 3600) ++ ':' :: Digits.padded 2 (seconds / 60 % 60) ++
    ':' :: Digits.padded 2 (seconds % 60) ++ fractionText (micros % 1000000)

/-- The text of a timestamp, if its day has one. -/
def text? (micros : Int64) : Option String :=
  let days := micros.toInt / day
  if firstDay ≤ days ∧ days ≤ lastDay then
    some (String.ofList (dateText (CivilDate.ofDays days) ++
      'T' :: timeText (micros.toInt % day).toNat ++ "+00:00".toList))
  else none

/-! ### Reading -/

/-- A natural of exactly `width` digits at the head of the text. -/
def readNatural? (width : Nat) (text : List Char) : Option (Nat × List Char) :=
  let digits := text.take width
  if digits.length = width ∧ digits.all Char.isDigit then
    some (Digits.natural 0 digits, text.drop width)
  else none

/-- The text behind one of some characters. -/
def readMark? (marks : List Char) : List Char → Option (List Char)
  | c :: rest => if marks.contains c then some rest else none
  | [] => none

/-- A date at the head of the text. -/
def readDate? (text : List Char) : Option (CivilDate × List Char) := do
  let (year, text) ← readNatural? 4 text
  let text ← readMark? ['-'] text
  let (month, text) ← readNatural? 2 text
  let text ← readMark? ['-'] text
  let (day, text) ← readNatural? 2 text
  let date : CivilDate := ⟨year, month, day⟩
  if date.isValid then some (date, text) else none

/-- The microseconds of a fraction, of which further digits do not count. -/
def readFraction? : List Char → Option (Nat × List Char)
  | '.' :: text =>
    let digits := text.takeWhile Char.isDigit
    let micros := (digits ++ List.replicate 6 '0').take 6
    if digits.isEmpty then none
    else some (Digits.natural 0 micros,
      text.dropWhile Char.isDigit)
  | text => some (0, text)

/-- A time of day in microseconds. The second may be 60. -/
def readTime? (text : List Char) : Option (Nat × List Char) := do
  let (hour, text) ← readNatural? 2 text
  let text ← readMark? [':'] text
  let (minute, text) ← readNatural? 2 text
  let text ← readMark? [':'] text
  let (second, text) ← readNatural? 2 text
  let (micros, text) ← readFraction? text
  if hour ≤ 23 ∧ minute ≤ 59 ∧ second ≤ 60 then
    some (((hour * 60 + minute) * 60 + second) * 1000000 + micros, text)
  else none

/-- The minutes by which a zone is ahead: `Z`, or a sign, hours and minutes, less than a day. The
minus may be the mathematical one. -/
def readOffset? : List Char → Option (Int × List Char)
  | c :: text => do
    if c = 'Z' ∨ c = 'z' then some (0, text)
    else if c = '+' ∨ c = '-' ∨ c = '\u2212' then
      let (hours, text) ← readNatural? 2 text
      let text ← readMark? [':'] text
      let (minutes, text) ← readNatural? 2 text
      let total : Int := hours * 60 + minutes
      if minutes ≤ 59 ∧ hours ≤ 23 then some (if c = '+' then total else -total, text) else none
    else none
  | [] => none

/-- The timestamp written by a date, a time of day and an offset. -/
def read? (text : List Char) : Option Int64 := do
  let (date, text) ← readDate? text
  let text ← readMark? ['T', 't', ' '] text
  let (time, text) ← readTime? text
  let (offset, text) ← readOffset? text
  if text.isEmpty then
    some (Int64.ofInt (date.toDays * day + time - offset * 60 * second))
  else none

end RecordQuery.Timestamp
