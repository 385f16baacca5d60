import Mathlib.Data.List.Infix
import RecordQuery.FilterDocument

/-!
# What stores do with values and texts

Both stores compare values in one order. A store of documents compares with the operands of a
filter as they are written and searches texts for regular expressions. What is asked of them is
that a written operand stands for the value it was written for and that an escaped text matches
itself alone.
-/

namespace RecordQuery

open FilterDocument (encode escape isSpecial)

/-- How stores compare values and search texts. -/
structure Stores where
  /-- The order of two values that are not null, if they have one. -/
  order : Value → Value → Option Ordering
  /-- The order of a value that is not null and an operand of a filter document. -/
  orderWritten : Value → Json → Option Ordering
  /-- Is the regular expression found in the text? -/
  finds : (regex text : List Char) → Bool

/-- What the stores promise. -/
structure Stores.Faithful (stores : Stores) : Prop where
  order_encode : ∀ left right, encode right ≠ .null →
    stores.orderWritten left (encode right) = stores.order left right
  finds_escape : ∀ literal text,
    stores.finds (escape literal) text = true ↔ literal <:+: text
  finds_escape_start : ∀ literal text,
    stores.finds ('^' :: escape literal) text = true ↔ literal <+: text
  finds_escape_end : ∀ literal text,
    stores.finds (escape literal ++ ['$']) text = true ↔ literal <:+ text

namespace Stores

/-! ### Stores that keep the promises -/

/-- The order of written values: that of numbers and that of texts. Any other value is only equal to
itself. -/
def orderOfForms : Json → Json → Option Ordering
  | .integer left, .integer right => some (compare left right)
  | .string left, .string right => some (compare left right)
  | left, right => if left = right then some .eq else none

/-- The text that a regular expression without operators matches, and whether the text has to end
there. -/
def readLiteral : List Char → List Char × Bool
  | [] => ([], false)
  | c :: rest =>
    if c = '\\' then
      match rest with
      | [] => ([], false)
      | escaped :: rest => ((readLiteral rest).map (escaped :: ·) id)
    else if c = '$' ∧ rest = [] then ([], true)
    else (readLiteral rest).map (c :: ·) id

/-- Searches for a regular expression without operators, anchors apart. -/
def findsLiteral (regex text : List Char) : Bool :=
  if regex.head? = some '^' then
    let (literal, atEnd) := readLiteral regex.tail
    if atEnd then literal == text else literal.isPrefixOf text
  else
    let (literal, atEnd) := readLiteral regex
    if atEnd then literal.isSuffixOf text else decide (literal <:+: text)

/-- Stores that compare values as they are written. -/
def plain : Stores where
  order left right := orderOfForms (encode left) (encode right)
  orderWritten left right := orderOfForms (encode left) right
  finds := findsLiteral

theorem readLiteral_backslash (c : Char) (rest : List Char) :
    readLiteral ('\\' :: c :: rest) = (readLiteral rest).map (c :: ·) id := by
  simp [readLiteral]

theorem readLiteral_cons {c : Char} (notSpecial : isSpecial c = false) (rest : List Char) :
    readLiteral (c :: rest) = (readLiteral rest).map (c :: ·) id := by
  have notBackslash : c ≠ '\\' := fun same => by simp [same, isSpecial] at notSpecial
  have notDollar : c ≠ '$' := fun same => by simp [same, isSpecial] at notSpecial
  rw [readLiteral.eq_def]
  simp [notBackslash, notDollar]

theorem readLiteral_escape (literal ending : List Char) :
    readLiteral (escape literal ++ ending) = (readLiteral ending).map (literal ++ ·) id := by
  -- Character by character: a special one is read back behind its backslash.
  induction literal with
  | nil => rfl
  | cons c rest ih =>
    unfold escape at ih ⊢
    cases special : isSpecial c with
    | true => simp [special, readLiteral_backslash, ih, Prod.map]
    | false => simp [special, readLiteral_cons, ih, Prod.map]

/-- An escaped text does not begin with an anchor. -/
theorem head?_escape_ne (literal ending : List Char) (other : ending.head? ≠ some '^') :
    (escape literal ++ ending).head? ≠ some '^' := by
  cases literal with
  | nil => exact other
  | cons c rest =>
    by_cases special : isSpecial c = true
    · simp [escape, special]
    · have notAnchor : c ≠ '^' := fun same => special (same ▸ by decide)
      simp [escape, special, notAnchor]

theorem findsLiteral_of_head? {regex : List Char} (noAnchor : regex.head? ≠ some '^')
    (text : List Char) :
    findsLiteral regex text =
      if (readLiteral regex).2 then (readLiteral regex).1.isSuffixOf text
      else decide ((readLiteral regex).1 <:+: text) := by
  rw [findsLiteral, if_neg noAnchor]

theorem plain_faithful : plain.Faithful where
  order_encode _ _ _ := rfl
  finds_escape literal text := by
    have noAnchor := head?_escape_ne literal [] (by simp)
    have reading := readLiteral_escape literal []
    rw [List.append_nil] at noAnchor reading
    show findsLiteral _ _ = true ↔ _
    rw [findsLiteral_of_head? noAnchor, reading]
    simp [readLiteral]
  finds_escape_start literal text := by
    have reading := readLiteral_escape literal []
    rw [List.append_nil] at reading
    simp [plain, findsLiteral, reading, readLiteral]
  finds_escape_end literal text := by
    have noAnchor := head?_escape_ne literal ['$'] (by simp)
    show findsLiteral _ _ = true ↔ _
    rw [findsLiteral_of_head? noAnchor, readLiteral_escape]
    simp [readLiteral]

end Stores

end RecordQuery
