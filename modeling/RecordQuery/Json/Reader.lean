import RecordQuery.Json.Written
import RecordQuery.Number.Reading

/-!
# Reading documents

The grammar is strict: nothing may follow the document but space, a number has no superfluous zero
in front, and text holds no raw control character. What follows the grammar is a document as
written. It is a document when besides every number is in range, no text or key holds half of a
surrogate pair, and lists and objects nest to a bounded depth. The significand of a real number is
kept in 64 bits and scaled by a power of ten, so a real number with more digits than fit is near the
written one and not always nearest.
-/

namespace RecordQuery.Json

/-- Is the character space between the parts of a document? -/
def isSpace (c : Char) : Bool := c = ' ' || c = '\n' || c = '\t' || c = '\r'

/-- The text from its first part on. -/
def skipSpaces (text : List Char) : List Char := text.dropWhile isSpace

/-! ### Numbers -/

/-- Continues a significand with digits while it fits in 64 bits. The second part is how many
digits were taken. -/
def accumulate (significand : Nat) : List Char → Nat × Nat
  | [] => (significand, 0)
  | c :: rest =>
    let next := 10 * significand + Digits.value c
    if next < UInt64.size then
      let (total, taken) := accumulate next rest
      (total, taken + 1)
    else (significand, 0)

/-- The real number nearest to a power of ten. -/
def tenPower (n : Nat) : Double := Binary.ofNat .double (Nat.pow 10 n)

/-- A real number times a power of ten, nothing when it is too large. Powers beyond 308 are taken
in steps; a significand of 64 bits has become zero after the second step down. -/
def timesTenPower? : (steps : Nat) → Double → (exponent : Int) → Option Double
  | steps, x, exponent =>
    if exponent.natAbs ≤ 308 then
      if 0 ≤ exponent then
        let product := x.times (tenPower exponent.toNat)
        if product.isFinite then some product else none
      else some (x.dividedBy (tenPower exponent.natAbs))
    else if x.isZero then some x
    else if 0 ≤ exponent then none
    else match steps with
      | 0 => some x
      | steps + 1 => timesTenPower? steps (x.dividedBy (tenPower 308)) (exponent + 308)

/-- The real number of a significand and a power of ten. -/
def realValue? (negative : Bool) (significand : Nat) (exponent : Int) : Option Json :=
  (timesTenPower? 3 (Binary.ofNat .double significand) exponent).map fun x =>
    .real (if negative then x.negate else x)

/-- An integer of 64 bits, signed when it is negative. Minus zero, and what is below the least
signed integer, are real. -/
def integerValue (negative : Bool) (significand : Nat) : Json :=
  if negative then
    if significand = 0 ∨ -(significand : Int) < Int64.minValue.toInt then
      .real (Binary.ofNat .double significand).negate
    else .integer (-significand)
  else .integer significand

/-- The fraction of a number, a point and at least one digit, if there is one. -/
def readFraction : List Char → Option (Option (List Char) × List Char)
  | '.' :: rest =>
    let digits := rest.takeWhile Char.isDigit
    if digits.isEmpty then none else some (some digits, rest.dropWhile Char.isDigit)
  | text => some (none, text)

/-- The exponent of a number, a mark, a sign perhaps and at least one digit, if there is one. -/
def readExponent : List Char → Option (Option Int × List Char)
  | [] => some (none, [])
  | c :: rest =>
    if c = 'e' ∨ c = 'E' then
      let (negative, body) := Numeral.sign rest
      let digits := body.takeWhile Char.isDigit
      if digits.isEmpty then none
      else
        let n : Int := Digits.natural 0 digits
        some (some (if negative then -n else n), body.dropWhile Char.isDigit)
    else some (none, c :: rest)

/-- The value of a number whose parts have been read. -/
def numberValue? (negative : Bool) (whole : List Char) (fraction : Option (List Char))
    (exponent : Option Int) : Option Json :=
  let (significand, taken) := accumulate 0 whole
  let dropped := whole.length - taken
  match fraction, exponent with
  | none, none =>
    if dropped = 0 then some (integerValue negative significand)
    else realValue? negative significand dropped
  | fraction, exponent =>
    let (total, places) := accumulate significand (fraction.getD [])
    realValue? negative total (exponent.getD 0 + dropped - places)

/-- A number at the head of the text, whose value is missing when it is too large. Its whole part is
zero or starts with another digit. -/
def readNumber (text : List Char) : Option (Option Json × List Char) := do
  let (negative, body) := match text with
    | '-' :: rest => (true, rest)
    | text => (false, text)
  let whole := body.takeWhile Char.isDigit
  match whole with
  | [] => none
  | '0' :: _ :: _ => none
  | whole =>
    let (fraction, rest) ← readFraction (body.dropWhile Char.isDigit)
    let (exponent, rest) ← readExponent rest
    pure (numberValue? negative whole fraction exponent, rest)

/-! ### Text -/

/-- The sixteen bits written by four hexadecimal digits. -/
def hexUnit? (a b c d : Char) : Option Nat := do
  let a ← Digits.hexValue? a
  let b ← Digits.hexValue? b
  let c ← Digits.hexValue? c
  let d ← Digits.hexValue? d
  pure (((a * 16 + b) * 16 + c) * 16 + d)

/-- The character that stands for another one behind a backslash. -/
def unescape? (c : Char) : Option Char :=
  if c = '"' ∨ c = '\\' ∨ c = '/' then some c
  else if c = 'n' then some '\n'
  else if c = 'r' then some '\r'
  else if c = 't' then some '\t'
  else if c = 'b' then some '\x08'
  else if c = 'f' then some '\x0c'
  else none

/-- Is the unit the first half of a surrogate pair? -/
def isHighHalf (unit : Nat) : Bool := 0xD800 ≤ unit && unit < 0xDC00

/-- Is the unit the second half of a surrogate pair? -/
def isLowHalf (unit : Nat) : Bool := 0xDC00 ≤ unit && unit < 0xE000

/-- The codes of the characters behind an opening quote, up to the closing one. A code that is
written in digits may be half of a surrogate pair. -/
def readCodes : List Char → Option (List Nat × List Char)
  | [] => none
  | '"' :: rest => some ([], rest)
  | '\\' :: 'u' :: a :: b :: c :: d :: rest =>
    match hexUnit? a b c d with
    | none => none
    | some unit => (readCodes rest).map fun (codes, rest) => (unit :: codes, rest)
  | '\\' :: c :: rest =>
    match unescape? c with
    | none => none
    | some plain => (readCodes rest).map fun (codes, rest) => (plain.toNat :: codes, rest)
  | c :: rest =>
    if c.toNat < 0x20 then none
    else (readCodes rest).map fun (codes, rest) => (c.toNat :: codes, rest)

/-- The character of a surrogate pair. -/
def pairedChar (high low : Nat) : Char :=
  Char.ofNat (0x10000 + (high - 0xD800) * 0x400 + (low - 0xDC00))

/-- The characters of codes, surrogate pairs being joined. A half by itself is no character. -/
def joinPairs? : List Nat → Option (List Char)
  | [] => some []
  | code :: rest =>
    if isHighHalf code then
      match rest with
      | [] => none
      | low :: rest =>
        if isLowHalf low then (joinPairs? rest).map (pairedChar code low :: ·) else none
    else if isLowHalf code then none
    else (joinPairs? rest).map (Char.ofNat code :: ·)

/-- Text behind its opening quote, whose value is missing when it holds half of a pair. -/
def readText (text : List Char) : Option (Option String × List Char) :=
  (readCodes text).map fun (codes, rest) => ((joinPairs? codes).map String.ofList, rest)

/-! ### Documents -/

mutual

/-- A document at the head of the text. The fuel bounds the calls. -/
def readValue : (fuel : Nat) → List Char → Option (Written × List Char)
  | 0, _ => none
  | fuel + 1, text =>
    match skipSpaces text with
    | 'n' :: 'u' :: 'l' :: 'l' :: rest => some (.leaf (some .null), rest)
    | 't' :: 'r' :: 'u' :: 'e' :: rest => some (.leaf (some (.bool true)), rest)
    | 'f' :: 'a' :: 'l' :: 's' :: 'e' :: rest => some (.leaf (some (.bool false)), rest)
    | '"' :: rest => (readText rest).map fun (text, rest) => (.leaf (text.map .string), rest)
    | '[' :: rest =>
      match skipSpaces rest with
      | ']' :: rest => some (.list [], rest)
      | rest => (readItems fuel rest).map fun (items, rest) => (.list items, rest)
    | '{' :: rest =>
      match skipSpaces rest with
      | '}' :: rest => some (.object [], rest)
      | rest => (readEntries fuel rest).map fun (entries, rest) => (.object entries, rest)
    | text => (readNumber text).map fun (value, rest) => (.leaf value, rest)

/-- The items of a list, at least one, up to the closing bracket. -/
def readItems : (fuel : Nat) → List Char → Option (List Written × List Char)
  | 0, _ => none
  | fuel + 1, text => do
    let (item, rest) ← readValue fuel text
    match skipSpaces rest with
    | ']' :: rest => pure ([item], rest)
    | ',' :: rest =>
      let (items, rest) ← readItems fuel rest
      pure (item :: items, rest)
    | _ => none

/-- The entries of an object, at least one, up to the closing brace. -/
def readEntries : (fuel : Nat) → List Char → Option (List (Option String × Written) × List Char)
  | 0, _ => none
  | fuel + 1, text =>
    match skipSpaces text with
    | '"' :: rest => do
      let (key, rest) ← readText rest
      match skipSpaces rest with
      | ':' :: rest =>
        let (part, rest) ← readValue fuel rest
        match skipSpaces rest with
        | '}' :: rest => pure ([(key, part)], rest)
        | ',' :: rest =>
          let (entries, rest) ← readEntries fuel rest
          pure ((key, part) :: entries, rest)
        | _ => none
      | _ => none
    | _ => none

end

/-- The document as a text writes it. Each call of the reader that does not end takes a character or
is followed by one that does, so twice the length bounds the calls. -/
def Written.ofText? (text : String) : Option Written :=
  let chars := text.toList
  match readValue (2 * chars.length + 2) chars with
  | some (document, rest) => if (skipSpaces rest).isEmpty then some document else none
  | none => none

/-- Lists and objects may stand inside each other this often. -/
def maxDepth : Nat := 127

def ofText? (text : String) : Option Json := do
  let document ← (← Written.ofText? text).value?
  if document.depth ≤ maxDepth then pure document else none

end RecordQuery.Json
