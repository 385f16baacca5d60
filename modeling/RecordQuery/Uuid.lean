import RecordQuery.Number.Digits

/-!
# Identifiers of sixteen bytes

The text of an identifier is thirty-two hexadecimal digits in small letters, in groups of 8, 4, 4,
4 and 12 with hyphens between. It is read in that form, without hyphens, in braces or behind
`urn:uuid:`, with letters in either case.
-/

namespace RecordQuery

structure Uuid where
  bytes : List UInt8
  size_eq : bytes.length = 16
  deriving DecidableEq

namespace Uuid

/-- The identifier of a list of sixteen bytes. -/
def ofBytes? (bytes : List UInt8) : Option Uuid :=
  if size : bytes.length = 16 then some ⟨bytes, size⟩ else none

/-! ### Writing -/

def byteText (byte : UInt8) : List Char :=
  [Digits.hex (byte.toNat / 16), Digits.hex (byte.toNat % 16)]

/-- The bytes from position `index` on, a hyphen before those that start a group. -/
def textFrom (index : Nat) : List UInt8 → List Char
  | [] => []
  | byte :: rest =>
    let hyphen := if index = 4 ∨ index = 6 ∨ index = 8 ∨ index = 10 then ['-'] else []
    hyphen ++ byteText byte ++ textFrom (index + 1) rest

/-- The displayed text of an identifier, byte by byte. -/
def display (uuid : Uuid) : String := String.ofList (textFrom 0 uuid.bytes)

/-- The text of an identifier in its five groups. -/
def text (uuid : Uuid) : String :=
  let digits := uuid.bytes.flatMap byteText
  String.ofList (digits.take 8 ++ '-' :: (digits.drop 8).take 4 ++ '-' :: (digits.drop 12).take 4 ++
    '-' :: (digits.drop 16).take 4 ++ '-' :: digits.drop 20)

/-! ### Reading -/

/-- The bytes written by pairs of digits. -/
def bytes? : List Char → Option (List UInt8)
  | [] => some []
  | [_] => none
  | high :: low :: rest => do
    let high ← Digits.hexValue? high
    let low ← Digits.hexValue? low
    let rest ← bytes? rest
    pure (UInt8.ofNat (16 * high + low) :: rest)

/-- The digits of a hyphenated text, if its hyphens stand where they belong. -/
def withoutHyphens? (text : List Char) : Option (List Char) :=
  if text.length = 36 ∧ text[8]? = some '-' ∧ text[13]? = some '-' ∧ text[18]? = some '-' ∧
      text[23]? = some '-' then
    some (text.take 8 ++ (text.drop 9).take 4 ++ (text.drop 14).take 4 ++ (text.drop 19).take 4 ++
      text.drop 24)
  else none

/-- The hyphenated part of a text in braces, behind the name of the scheme, or by itself. -/
def unwrapped (text : List Char) : List Char :=
  let scheme := "urn:uuid:".toList
  if text.length = 38 ∧ text.head? = some '{' ∧ text.getLast? = some '}' then
    (text.drop 1).take 36
  else if text.length = 45 ∧ (text.take 9).map Char.toLower = scheme then text.drop 9
  else text

/-- The identifier written by a text. -/
def read? (text : List Char) : Option Uuid := do
  let digits ← if text.length = 32 then some text else withoutHyphens? (unwrapped text)
  let bytes ← bytes? digits
  ofBytes? bytes

end Uuid

end RecordQuery
