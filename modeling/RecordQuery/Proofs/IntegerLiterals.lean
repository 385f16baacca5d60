import RecordQuery.Coercion
import RecordQuery.Proofs.LargeNumbers
import RecordQuery.Proofs.PlacedValues
import RecordQuery.Proofs.Rounding

/-!
# Integer literals

An integer in a request goes through a document, an untyped literal and a text before it becomes a
value of a field. What 64 bits do not hold goes through a real number as well, which may be another
integer but never one of 64 bits. So the value is the integer itself, or there is none.
-/

namespace RecordQuery

/-! ### Integers as values of fields -/

/-- The text of the literal is the integer, or another one where neither is one of 64 bits. -/
def Literal.Carries (literal : Literal) (n : Int) : Prop :=
  ∃ m, Numeral.Writes literal.text.toList m ∧ Width.int64? m = Width.int64? n

theorem Width.int32?_eq_none {n : Int} (beyond : int64? n = none) : int32? n = none := by
  have least : Int64.minValue.toInt ≤ Int32.minValue.toInt := by decide
  have greatest : Int32.maxValue.toInt ≤ Int64.maxValue.toInt := by decide
  rw [int64?, ite_eq_right_iff] at beyond
  rw [int32?, if_neg]
  intro within
  cases beyond ⟨by omega, by omega⟩

/-- Integers that are the same in 64 bits are the same in 32 bits. -/
theorem Width.int32?_of_int64? {m n : Int} (same : int64? m = int64? n) : int32? m = int32? n := by
  cases found : int64? n with
  | none => rw [int32?_eq_none (same.trans found), int32?_eq_none found]
  | some value => rw [← toInt_of_int64? (same.trans found), ← toInt_of_int64? found]

namespace ScalarType

/-- The least and the greatest integer of a type that counts. -/
def range? : ScalarType → Option (Int × Int)
  | .int32 => some (-2 ^ 31, 2 ^ 31 - 1)
  | .int64 => some (-2 ^ 63, 2 ^ 63 - 1)
  | .timestamp => some (-2 ^ 63, 2 ^ 63 - 1)
  | _ => none

/-- Is the value the integer, as a value of the type? -/
def Denotes : ScalarType → Value → Int → Prop
  | .int32, .int32 value, n => value.toInt = n
  | .int64, .int64 value, n => value.toInt = n
  | .timestamp, .timestamp micros, n => micros.toInt = n
  | _, _, _ => False

/-- The integer as a value of a type that counts, if it is in range. -/
def counted? : ScalarType → Int → Option Value
  | .int32, n => (Width.int32? n).map .int32
  | .int64, n => (Width.int64? n).map .int64
  | .timestamp, n => (Width.int64? n).map .timestamp
  | _, _ => none

/-- What is read from an integer's text is the integer. -/
theorem read?_of_carries {type : ScalarType} {literal : Literal} {n : Int}
    (counts : type.range?.isSome = true) (carries : literal.Carries n) :
    type.read? literal.text = type.counted? n := by
  obtain ⟨m, writes, same⟩ := carries
  have trimmed : Text.trim literal.text.toList = literal.text.toList :=
    Text.trim_of_visible fun c member => Text.not_isBlank_of_numeric (writes.numeric c member)
  have untimed := Timestamp.read?_of_writes writes
  cases type with
  | int32 =>
    simp [read?, trimmed, readInt32?, writes.integer?, Width.int32?_of_int64? same, counted?]
  | int64 => simp [read?, trimmed, readInt64?, writes.integer?, same, counted?]
  | timestamp =>
    simp [read?, trimmed, readTimestamp?, untimed, readInt64?, writes.integer?, same, counted?]
  | _ => cases counts

theorem denotes_of_counted? {type : ScalarType} {n : Int} {value : Value}
    (counted : type.counted? n = some value) : type.Denotes value n := by
  cases type with
  | int32 =>
    obtain ⟨narrow, found, rfl⟩ := Option.map_eq_some_iff.mp counted
    exact Width.toInt_of_int32? found
  | int64 =>
    obtain ⟨narrow, found, rfl⟩ := Option.map_eq_some_iff.mp counted
    exact Width.toInt_of_int64? found
  | timestamp =>
    obtain ⟨narrow, found, rfl⟩ := Option.map_eq_some_iff.mp counted
    exact Width.toInt_of_int64? found
  | _ => cases counted

theorem counted?_of_range {type : ScalarType} {least greatest n : Int}
    (range : type.range? = some (least, greatest)) (above : least ≤ n) (below : n ≤ greatest) :
    ∃ value, type.counted? n = some value := by
  have least32 : Int32.minValue.toInt = -2 ^ 31 := by decide
  have greatest32 : Int32.maxValue.toInt = 2 ^ 31 - 1 := by decide
  have least64 : Int64.minValue.toInt = -2 ^ 63 := by decide
  have greatest64 : Int64.maxValue.toInt = 2 ^ 63 - 1 := by decide
  cases type with
  | int32 =>
    cases range
    exact ⟨_, by rw [counted?, Width.int32?, if_pos ⟨by omega, by omega⟩]; rfl⟩
  | int64 =>
    cases range
    exact ⟨_, by rw [counted?, Width.int64?, if_pos ⟨by omega, by omega⟩]; rfl⟩
  | timestamp =>
    cases range
    exact ⟨_, by rw [counted?, Width.int64?, if_pos ⟨by omega, by omega⟩]; rfl⟩
  | _ => cases range

end ScalarType

/-- A field whose type counts has the integer as its value, or none. -/
theorem FieldType.coerce_of_carries {type : FieldType} {inner : ScalarType} {literal : Literal}
    {n : Int} (scalar : type.scalar? = some inner) (counts : inner.range?.isSome = true)
    (carries : literal.Carries n) (field : String) :
    type.coerce field literal =
      match inner.counted? n with
      | some value => .ok value
      | none => .error (.invalid field literal.text inner.name) := by
  have read := ScalarType.read?_of_carries counts carries
  generalize inner.counted? n = counted at read ⊢
  cases counted <;> cases type <;> cases scalar <;> simp only [coerce, FieldType.read, read]

/-! ### Numbers of documents -/

namespace Json

open Binary (Reaches)

/-- Either all digits were taken, or the next one did not fit in 64 bits. -/
theorem accumulate_cases {digits : List Char} (all : ∀ c ∈ digits, c.isDigit = true) (start : Nat) :
    (accumulate start digits).2 = digits.length ∧
        (accumulate start digits).1 = Digits.natural start digits ∨
      (accumulate start digits).2 < digits.length ∧
        UInt64.size ≤ 10 * (accumulate start digits).1 + 9 := by
  induction digits generalizing start with
  | nil => exact .inl ⟨rfl, rfl⟩
  | cons c rest ih =>
    obtain ⟨digit, further⟩ := List.forall_mem_cons.mp all
    rw [accumulate]
    split
    next fits =>
      have later := ih further (10 * start + Digits.value c)
      simp only [List.length_cons, Nat.add_right_cancel_iff, Nat.add_lt_add_iff_right]
      exact later
    next large =>
      have small := Digits.value_lt digit
      exact .inr ⟨Nat.succ_pos _, by omega⟩

theorem accumulate_lt {start : Nat} (fits : start < UInt64.size) (digits : List Char) :
    (accumulate start digits).1 < UInt64.size := by
  induction digits generalizing start with
  | nil => exact fits
  | cons c rest ih =>
    rw [accumulate]
    split
    next next_fits => exact ih next_fits
    next => exact fits

theorem reaches_tenPower {zeros : Nat} (raised : 0 < zeros) : (tenPower zeros).Reaches 3 := by
  refine Binary.reaches_whole (by decide) ?_ false
  calc 2 ^ 3 ≤ 10 ^ 1 := by decide
    _ ≤ 10 ^ zeros := Nat.pow_le_pow_right (by decide) raised

/-- A large number that is raised by a power of ten is larger than `2 ^ 63`, if there is one. -/
theorem reaches_timesTenPower? {steps : Nat} {number product : Double} {zeros : Nat}
    (large : number.Reaches 60) (raised : 0 < zeros)
    (found : timesTenPower? steps number zeros = some product) :
    product.isFinite = true ∧ product.Reaches 63 := by
  have nonzero : number.isZero = false := by
    cases number with
    | finite negative significand exponent =>
      obtain ⟨full, _⟩ := large
      have positive : significand ≠ 0 := by
        rintro rfl
        exact absurd full (by decide)
      simpa [Binary.isZero] using positive
    | infinite _ => rfl
    | nan => rfl
  unfold timesTenPower? at found
  split at found
  · rw [if_pos (Int.natCast_nonneg zeros)] at found
    simp only [Int.toNat_natCast, Option.ite_none_right_eq_some, Option.some.injEq] at found
    obtain ⟨finite, rfl⟩ := found
    exact ⟨finite, Binary.reaches_times large (reaches_tenPower raised) (by decide)⟩
  · -- Beyond the greatest power of ten there is no number.
    rw [nonzero, if_neg Bool.false_ne_true, if_pos (Int.natCast_nonneg zeros)] at found
    cases found

/-- The real number of an integer that 64 bits do not hold. -/
theorem reaches_numberValue? {negative : Bool} {n : Nat} {value : Json} (beyond : UInt64.size ≤ n)
    (found : numberValue? negative (Digits.decimal n) none none = some value) :
    ∃ number : Double, value = .real number ∧ number.isFinite = true ∧ number.Reaches 63 := by
  have all : ∀ c ∈ Digits.decimal n, c.isDigit = true := fun _ => Digits.isDigit_of_mem_decimal
  have below := accumulate_lt (show 0 < UInt64.size by decide) (Digits.decimal n)
  rcases accumulate_cases all 0 with ⟨_, whole⟩ | ⟨dropped, full⟩
  · -- The digits do not fit, so not all of them were taken.
    rw [whole, Digits.natural_decimal] at below
    omega
  · have raised : 0 < (Digits.decimal n).length - (accumulate 0 (Digits.decimal n)).2 := by omega
    have size : UInt64.size = 18446744073709551616 := rfl
    have large : (Binary.ofNat .double (accumulate 0 (Digits.decimal n)).1).Reaches 60 :=
      Binary.reaches_whole (by decide) (show 1152921504606846976 ≤ _ by omega) false
    simp only [numberValue?, if_neg raised.ne', realValue?, Option.map_eq_some_iff] at found
    obtain ⟨number, product, rfl⟩ := found
    obtain ⟨finite, reaches⟩ := reaches_timesTenPower? large raised product
    cases negative with
    | false => exact ⟨number, rfl, finite, reaches⟩
    | true => exact ⟨number.negate, rfl, by simpa using finite, Binary.reaches_negate.mpr reaches⟩

end Json

namespace Literal

theorem carries_of_reaches {number : Double} {n : Int} (finite : number.isFinite = true)
    (large : number.Reaches 63) (beyond : Width.int64? n = none) :
    (Literal.real number).Carries n := by
  obtain ⟨m, writes, other⟩ := number.writes_display finite large
  exact ⟨m, writes, other.trans beyond.symm⟩

/-- A natural of 64 bits that is beyond the integers with sign, as a double. -/
theorem large_whole {n : Nat} (large : 2 ^ 63 ≤ n) (fits : n < UInt64.size) (negative : Bool) :
    (Binary.round .double negative n 1).isFinite = true ∧
      (Binary.round .double negative n 1).Reaches 63 :=
  ⟨Binary.isFinite_round (show n < Nat.pow 2 64 from fits) (by decide) (by decide) (by decide) _ _,
    Binary.reaches_whole (by decide) large negative⟩

/-- An integer of a document is carried by its literal. -/
theorem carries_integer {n : Int} (fits : Json.FitsWidth n) :
    ∃ literal, ofJson? (.integer n) = some literal ∧ literal.Carries n := by
  have least : Int64.minValue.toInt = -2 ^ 63 := by decide
  have greatest : Int64.maxValue.toInt = 2 ^ 63 - 1 := by decide
  have size : UInt64.size = 2 ^ 64 := rfl
  obtain ⟨above, below⟩ := fits
  rw [ofJson?]
  split
  next narrow found =>
    refine ⟨_, rfl, n, ?_, rfl⟩
    rw [text, String.toList_ofList, Width.toInt_of_int64? found]
    exact Numeral.writes_integer n
  next beyond =>
    -- An integer without sign that is too large for one with sign becomes the double next to it.
    have large : ¬(Int64.minValue.toInt ≤ n ∧ n ≤ Int64.maxValue.toInt) := by
      simpa [Width.int64?] using beyond
    obtain ⟨finite, reaches⟩ := large_whole (show 2 ^ 63 ≤ n.natAbs by omega) (by omega) _
    exact ⟨_, rfl, carries_of_reaches finite reaches beyond⟩

/-- Whatever a document makes of an integer, the literal carries it. -/
theorem carries_numberValue? {negative : Bool} {n : Nat} {value : Json}
    (found : Json.numberValue? negative (Digits.decimal n) none none = some value) :
    ∃ literal, ofJson? value = some literal ∧
      literal.Carries (if negative then -(n : Int) else n) := by
  have least : Int64.minValue.toInt = -2 ^ 63 := by decide
  have greatest : Int64.maxValue.toInt = 2 ^ 63 - 1 := by decide
  have size : UInt64.size = 2 ^ 64 := rfl
  by_cases fits : n < UInt64.size
  · rw [Json.numberValue?_decimal fits] at found
    obtain rfl := Option.some.inj found
    cases negative with
    | false => exact carries_integer ⟨by omega, by omega⟩
    | true =>
      rw [Json.integerValue, if_pos rfl]
      split
      next real =>
        refine ⟨_, rfl, ?_⟩
        rcases real with rfl | below
        · -- Zero keeps its minus, which does not change the integer.
          exact ⟨0, ⟨['0'], 0, rfl, .inr ⟨by decide +kernel, rfl⟩⟩, rfl⟩
        · obtain ⟨finite, reaches⟩ := large_whole (show 2 ^ 63 ≤ n by omega) fits false
          apply carries_of_reaches
          · rw [Binary.isFinite_negate]
            exact finite
          · rw [Binary.reaches_negate]
            exact reaches
          · rw [if_pos rfl]
            exact if_neg (by omega)
      next integer => exact carries_integer ⟨by omega, by omega⟩
  · -- What does not fit in 64 bits is out of range with either sign.
    obtain ⟨number, rfl, finite, large⟩ := Json.reaches_numberValue? (by omega) found
    refine ⟨_, rfl, carries_of_reaches finite large (if_neg ?_)⟩
    split <;> omega

/-- Numbers have no keys that reading could change. -/
theorem foldKeys_of_ofJson? {document : Json} {literal : Literal}
    (found : ofJson? document = some literal) :
    document.settle.foldKeys = .ok document ∧
      Json.optional ofJson? (some document) = some (some literal) := by
  cases document with
  | null => cases found
  | list items => cases found
  | object entries => cases found
  | _ => simp [Json.settle, Json.foldKeys, Json.optional, Json.withDefault, Json.nullable?, found]

end Literal

/-! ### Numerals in a text -/

namespace Json

/-- The text is the integer as documents write it: digits without a superfluous zero, behind a minus
or nothing. -/
def WritesInteger (text : List Char) (n : Int) : Prop :=
  ∃ digits m, Numeral.natural? digits = some m ∧ (digits.head? = some '0' → digits = ['0']) ∧
    (text = digits ∧ n = m ∨ text = '-' :: digits ∧ n = -(m : Int))

/-- A numeral is read to its end. -/
theorem WritesInteger.readNumber {text rest : List Char} {n : Int} (writes : WritesInteger text n)
    (ends : EndsNumber rest) :
    ∃ negative m, n = (if negative then -(m : Int) else m) ∧
      readNumber (text ++ rest) =
        some (numberValue? negative (Digits.decimal m) none none, rest) := by
  obtain ⟨digits, m, read, plain, shape⟩ := writes
  obtain ⟨filled, all, value⟩ := Numeral.natural?_eq_some.mp read
  have decimal : Digits.decimal m = digits := value ▸ Digits.decimal_natural filled all plain
  rcases shape with ⟨rfl, rfl⟩ | ⟨rfl, rfl⟩
  · refine ⟨false, m, rfl, ?_⟩
    obtain ⟨first, more, rfl⟩ := List.exists_cons_of_ne_nil filled
    have unsigned : first ≠ '-' := by
      rintro rfl
      cases all '-' List.mem_cons_self
    rw [List.cons_append, readNumber_cons unsigned, ← List.cons_append, ← decimal]
    exact readUnsigned_decimal false m ends
  · refine ⟨true, m, rfl, ?_⟩
    rw [List.cons_append, readNumber_minus, ← decimal]
    exact readUnsigned_decimal true m ends

theorem WritesInteger.head {text : List Char} {n : Int} (writes : WritesInteger text n) :
    ∃ c more, text = c :: more ∧ (c = '-' ∨ c.isDigit = true) := by
  obtain ⟨digits, m, read, _, ⟨rfl, _⟩ | ⟨rfl, _⟩⟩ := writes
  · obtain ⟨filled, all, _⟩ := Numeral.natural?_eq_some.mp read
    obtain ⟨c, more, rfl⟩ := List.exists_cons_of_ne_nil filled
    exact ⟨c, more, rfl, .inr (all c List.mem_cons_self)⟩
  · exact ⟨'-', digits, rfl, .inl rfl⟩

/-- Where a numeral stands behind space, a number begins. -/
theorem WritesInteger.begins {place text rest : List Char} {n : Int}
    (writes : WritesInteger text n) (stands : skipSpaces place = text ++ rest)
    (ends : EndsNumber rest) :
    ∃ negative m, n = (if negative then -(m : Int) else m) ∧
      Begins place (.leaf (numberValue? negative (Digits.decimal m) none none)) rest := by
  obtain ⟨c, more, rfl, numeric⟩ := writes.head
  obtain ⟨negative, m, same, read⟩ := writes.readNumber ends
  refine ⟨negative, m, same, 1, ?_⟩
  rw [List.cons_append] at stands read
  rw [readValue, stands]
  -- Neither a sign nor a digit starts any other document.
  split
  all_goals first
    | (next same =>
        obtain ⟨rfl, _⟩ := List.cons.inj same
        rcases numeric with impossible | impossible <;> cases impossible)
    | simp [read]

end Json

/-! ### Main result -/

/-- Where the text of a condition, at the root or below it, gives an integer as its value, the
literal carries that integer. -/
theorem Condition.carries_value {text : String} {condition node : Condition}
    {start place numeral rest : List Char} {n : Int} (read : ofText text = .ok condition)
    (stands : Stands text.toList condition start node) (given : GivesValue start place)
    (number : Json.skipSpaces place = numeral ++ rest) (writes : Json.WritesInteger numeral n)
    (ends : Json.EndsNumber rest) : ∃ literal, node.value = some literal ∧ literal.Carries n := by
  obtain ⟨part, ⟨document, ⟨written, behind, begins, value⟩, folded⟩, valued⟩ :=
    value_reads read stands given
  -- The part that was read is the numeral, since no other document begins at its place.
  obtain ⟨negative, m, same, numeral_begins⟩ := writes.begins number ends
  obtain ⟨rfl, rfl⟩ := begins.unique numeral_begins
  rw [Json.Written.value?] at value
  obtain ⟨literal, found, carries⟩ := Literal.carries_numberValue? value
  obtain ⟨unchanged, taken⟩ := Literal.foldKeys_of_ofJson? found
  obtain rfl := Except.ok.inj (unchanged.symm.trans folded)
  exact ⟨literal, Option.some.inj (valued.symm.trans taken), same ▸ carries⟩

/-- A condition without real numbers is read back from its text. -/
theorem Condition.ofText_compact {condition : Condition} (finite : condition.Finite)
    (integral : condition.toJson.Integral) (shallow : condition.toJson.depth ≤ Json.maxDepth) :
    ofText condition.toJson.compact = .ok condition := by
  have parsed : Json.ofText? condition.toJson.compact = some condition.toJson := by
    simp [Json.ofText?, Json.ofText?_compact integral, Json.value?_written, shallow]
  have back : ofSmallKeys? condition.toJson.folded = some condition :=
    read?_folded finite (Nat.le_refl _)
  rw [ofText, readText, parsed]
  exact (readFolded_eq condition.keysApart_toJson back).2

/-- A comparison with an integer of 64 bits is read from its text. -/
theorem Condition.ofText_compared (field operator : String) (n : Int64) :
    ofText (compared field operator (.integer n)).toJson.compact =
      .ok (compared field operator (.integer n)) := by
  have document : (compared field operator (.integer n)).toJson =
      .object [("field", .string field), ("comparisonOperator", .string operator),
        ("value", .integer n.toInt)] := by
    simp [compared, toJson, Json.entry?, Literal.toJson]
  apply ofText_compact
  · refine .node ?_ (by simp [compared]) ?_
    · rintro literal held
      cases held
      rfl
    · rintro child ⟨_, _, held, _⟩
      cases held
  · have fits : Json.FitsWidth n.toInt :=
      ⟨Int64.minValue_le_toInt n, Int.lt_of_le_of_lt (Int64.toInt_le n) (by decide)⟩
    rw [document]
    refine .object trivial fun entry listed => ?_
    simp only [List.mem_cons, List.not_mem_nil, or_false] at listed
    rcases listed with rfl | rfl | rfl
    · exact .leaf trivial rfl
    · exact .leaf trivial rfl
    · exact .leaf fits rfl
  · rw [document]
    simp [Json.depth, Json.depthEntries, Json.maxDepth]

/-- An integer that a request gives as the value of a condition, whatever its number of digits, is
that integer as the value of a field of 32 bits, of 64 bits or of timestamps, or it is refused; in
the range of the type it is not refused. A text with any integer of 64 bits is read. -/
theorem integers_exact_or_refused :
    (∀ (text : String) (condition node : Condition) (start place numeral rest : List Char) (n : Int),
      Condition.ofText text = .ok condition →
      Condition.Stands text.toList condition start node → Condition.GivesValue start place →
      Json.skipSpaces place = numeral ++ rest → Json.WritesInteger numeral n →
      Json.EndsNumber rest →
        ∃ literal, node.value = some literal ∧
          ∀ (type : FieldType) (inner : ScalarType) (least greatest : Int) (field : String),
            type.scalar? = some inner → inner.range? = some (least, greatest) →
              (∀ value, type.coerce field literal = .ok value → inner.Denotes value n) ∧
              (least ≤ n → n ≤ greatest → ∃ value, type.coerce field literal = .ok value)) ∧
    ∀ (field operator : String) (n : Int64),
      Condition.ofText (Condition.compared field operator (.integer n)).toJson.compact =
        .ok (Condition.compared field operator (.integer n)) := by
  refine ⟨fun text condition node start place numeral rest n read stands given number writes ends =>
    ?_, Condition.ofText_compared⟩
  obtain ⟨literal, here, carries⟩ :=
    Condition.carries_value read stands given number writes ends
  refine ⟨literal, here, fun type inner least greatest field scalar range => ?_⟩
  have coerced := FieldType.coerce_of_carries scalar (range ▸ rfl) carries field
  refine ⟨fun value found => ?_, fun above below => ?_⟩
  · rw [coerced] at found
    split at found
    next counted =>
      cases found
      exact ScalarType.denotes_of_counted? counted
    next => cases found
  · obtain ⟨value, counted⟩ := ScalarType.counted?_of_range range above below
    rw [coerced, counted]
    exact ⟨value, rfl⟩

-- The integer below the least one of 64 bits becomes a double that is displayed as another integer.
example : (Literal.real (Binary.ofNat .double 9223372036854775809).negate).text =
    "-9223372036854776000" := by decide +kernel

namespace Sample

/-- The least integer of 64 bits. -/
def lowest : List Char := "-9223372036854775808".toList

/-- A condition with nothing but that value, its key in capitals. -/
def lowestText : String := "\x7b\"VALUE\": -9223372036854775808 \x7d"

def lowestCondition : Condition where
  value := some (.integer Int64.minValue)

theorem writes_lowest : Json.WritesInteger lowest (-2 ^ 63) :=
  ⟨"9223372036854775808".toList, 2 ^ 63, by decide +kernel, by decide +kernel,
    .inr ⟨by decide +kernel, rfl⟩⟩

theorem lowest_ends : Json.EndsNumber [' ', '}'] := by
  intro c here
  cases here
  decide

theorem lowest_place : Json.skipSpaces (' ' :: lowest ++ [' ', '}']) = lowest ++ [' ', '}'] := by
  decide +kernel

theorem lowest_given :
    Condition.GivesValue lowestText.toList (' ' :: lowest ++ [' ', '}']) := by
  obtain ⟨_, _, _, begins⟩ := writes_lowest.begins lowest_place lowest_ends
  have quote : Json.skipSpaces ("\"VALUE\":".toList ++ ' ' :: lowest ++ [' ', '}']) =
      '"' :: ("VALUE\":".toList ++ ' ' :: lowest ++ [' ', '}']) := by decide +kernel
  have name : Json.readText ("VALUE\":".toList ++ ' ' :: lowest ++ [' ', '}']) =
      some (some "VALUE", ':' :: (' ' :: lowest ++ [' ', '}'])) := by decide +kernel
  have brace : Json.skipSpaces [' ', '}'] = '}' :: [] := by decide
  have placed : Json.EntryTexts ("\"VALUE\":".toList ++ ' ' :: lowest ++ [' ', '}'])
      ([] ++ (some "VALUE", ' ' :: lowest ++ [' ', '}']) :: []) :=
    .last quote name rfl begins brace
  exact .named (by decide +kernel) placed (by decide +kernel) (by simp)

/-- As a timestamp the least integer is itself. -/
theorem lowest_exact :
    Condition.ofText lowestText = .ok lowestCondition ∧
      Condition.GivesValue lowestText.toList (' ' :: lowest ++ [' ', '}']) ∧
      Json.WritesInteger lowest (-2 ^ 63) ∧ Json.EndsNumber [' ', '}'] ∧
      ∃ literal value, lowestCondition.value = some literal ∧
        (FieldType.optionalScalar .timestamp).coerce "at" literal = .ok value ∧
        ScalarType.Denotes .timestamp value (-2 ^ 63) := by
  have read : Condition.ofText lowestText = .ok lowestCondition := by decide +kernel
  obtain ⟨literal, held, exact⟩ := integers_exact_or_refused.1 lowestText lowestCondition
    lowestCondition lowestText.toList _ lowest [' ', '}'] (-2 ^ 63) read .root lowest_given
    lowest_place writes_lowest lowest_ends
  obtain ⟨only, found⟩ := exact (.optionalScalar .timestamp) .timestamp _ _ "at" rfl rfl
  obtain ⟨value, coerced⟩ := found (by decide) (by decide)
  exact ⟨read, lowest_given, writes_lowest, lowest_ends, literal, value, held, coerced,
    only value coerced⟩

end Sample

end RecordQuery
