import Mathlib.Data.List.TakeWhile
import RecordQuery.Json.Printer
import RecordQuery.Json.Reader
import RecordQuery.Proofs.Parts

/-!
# Written text read back

A document without real numbers is written as a text that reads back as that document and nothing
else. What is written is read whatever text follows it, as long as no number goes on there.
-/

namespace RecordQuery

/-! ### Digits -/

namespace Digits

theorem isDigit_of_mem_decimal {n : Nat} {c : Char} (member : c ∈ decimal n) :
    c.isDigit = true :=
  Nat.isDigit_of_mem_toDigits (by decide) (by decide) member

theorem decimal_of_lt {n : Nat} (small : n < 10) : decimal n = [n.digitChar] :=
  Nat.toDigits_of_lt_base small

/-- Of digits without superfluous zeros only those of zero start with a zero. -/
theorem head?_decimal_ne {n : Nat} (positive : 0 < n) : (decimal n).head? ≠ some '0' := by
  induction n using Nat.strongRecOn with
  | _ n ih =>
    by_cases small : n < 10
    · have digits : ∀ digit < 10, 0 < digit → [Nat.digitChar digit].head? ≠ some '0' := by decide
      rw [decimal_of_lt small]
      exact digits n small positive
    · -- A further digit comes behind those of a tenth.
      have before : 0 < n / 10 := by omega
      have parts : decimal (n / 10) ++ decimal (n % 10) = decimal n := by
        have joined := Nat.toDigits_append_toDigits (b := 10) (by decide) before
          (Nat.mod_lt n (by decide))
        rwa [Nat.div_add_mod] at joined
      obtain ⟨first, more, digits⟩ := List.exists_cons_of_ne_nil (decimal_ne_nil (n / 10))
      have nonzero := ih (n / 10) (by omega) before
      rw [digits] at nonzero parts
      rw [← parts]
      exact nonzero

/-- Digits end where the next character is none. -/
theorem takeWhile_append {digits rest : List Char} (all : ∀ c ∈ digits, c.isDigit = true)
    (ends : ∀ c ∈ rest.head?, c.isDigit = false) :
    (digits ++ rest).takeWhile Char.isDigit = digits ∧
      (digits ++ rest).dropWhile Char.isDigit = rest := by
  have none_further : rest.takeWhile Char.isDigit = [] ∧ rest.dropWhile Char.isDigit = rest := by
    cases rest with
    | nil => exact ⟨rfl, rfl⟩
    | cons c more =>
      have stops := ends c rfl
      exact ⟨List.takeWhile_cons_of_neg (by simp [stops]),
        List.dropWhile_cons_of_neg (by simp [stops])⟩
  rw [List.takeWhile_append_of_pos all, List.dropWhile_append_of_pos all]
  simp [none_further]

theorem le_natural (start : Nat) (digits : List Char) : start ≤ natural start digits := by
  induction digits generalizing start with
  | nil => exact Nat.le_refl _
  | cons c rest ih =>
    have further := ih (10 * start + value c)
    change start ≤ natural (10 * start + value c) rest
    omega

end Digits

namespace Json

/-! ### Numbers -/

/-- No number goes on with this text. -/
def EndsNumber (rest : List Char) : Prop :=
  ∀ c ∈ rest.head?, c.isDigit = false ∧ c ≠ '.' ∧ c ≠ 'e' ∧ c ≠ 'E'

/-- A significand of 64 bits is accumulated to its end. -/
theorem accumulate_eq (start : Nat) (digits : List Char)
    (fits : Digits.natural start digits < UInt64.size) :
    accumulate start digits = (Digits.natural start digits, digits.length) := by
  induction digits generalizing start with
  | nil => rfl
  | cons c rest ih =>
    have next_fits : 10 * start + Digits.value c < UInt64.size :=
      Nat.lt_of_le_of_lt (Digits.le_natural _ rest) fits
    have tail : accumulate (10 * start + Digits.value c) rest = _ := ih _ fits
    rw [accumulate, if_pos next_fits, tail]
    rfl

theorem takeWhile_decimal {n : Nat} {rest : List Char} (ends : EndsNumber rest) :
    (Digits.decimal n ++ rest).takeWhile Char.isDigit = Digits.decimal n ∧
      (Digits.decimal n ++ rest).dropWhile Char.isDigit = rest :=
  Digits.takeWhile_append (fun _ => Digits.isDigit_of_mem_decimal) fun c here => (ends c here).1

theorem readFraction_of_ends {rest : List Char} (ends : EndsNumber rest) :
    readFraction rest = some (none, rest) := by
  unfold readFraction
  split
  next more => exact absurd rfl (ends '.' rfl).2.1
  next => rfl

theorem readExponent_of_ends {rest : List Char} (ends : EndsNumber rest) :
    readExponent rest = some (none, rest) := by
  cases rest with
  | nil => rfl
  | cons c more =>
    obtain ⟨_, _, small, capital⟩ := ends c rfl
    rw [readExponent, if_neg (by simp [small, capital])]

/-- An integer that fits in 64 bits, with sign if it has one. -/
def FitsWidth (n : Int) : Prop := Int64.minValue.toInt ≤ n ∧ n < UInt64.size

/-- A number behind its sign. -/
def readUnsigned (negative : Bool) (body : List Char) : Option (Option Json × List Char) :=
  match body.takeWhile Char.isDigit with
  | [] => none
  | '0' :: _ :: _ => none
  | whole => do
    let (fraction, rest) ← readFraction (body.dropWhile Char.isDigit)
    let (exponent, rest) ← readExponent rest
    pure (numberValue? negative whole fraction exponent, rest)

theorem readNumber_minus (body : List Char) :
    readNumber ('-' :: body) = readUnsigned true body := rfl

theorem readNumber_cons {c : Char} (unsigned : c ≠ '-') (more : List Char) :
    readNumber (c :: more) = readUnsigned false (c :: more) := by
  unfold readNumber
  split
  next signed =>
    split at signed
    next same => exact absurd (List.cons.inj same).1 unsigned
    next =>
      cases signed
      rfl

/-- The digits of a natural are read up to their end. -/
theorem readUnsigned_decimal (negative : Bool) (n : Nat) {rest : List Char}
    (ends : EndsNumber rest) :
    readUnsigned negative (Digits.decimal n ++ rest) =
      some (numberValue? negative (Digits.decimal n) none none, rest) := by
  obtain ⟨taken, dropped⟩ := takeWhile_decimal (n := n) ends
  unfold readUnsigned
  rw [taken, dropped]
  split
  next empty => exact absurd empty (Digits.decimal_ne_nil n)
  next second more zeros =>
    -- Only zero itself starts with a zero, and its zero is the only digit.
    have zero : n = 0 := by
      by_contra positive
      exact Digits.head?_decimal_ne (Nat.pos_of_ne_zero positive) (by rw [zeros]; rfl)
    subst zero
    cases zeros
  next => simp [readFraction_of_ends ends, readExponent_of_ends ends]

theorem numberValue?_decimal {negative : Bool} {n : Nat} (fits : n < UInt64.size) :
    numberValue? negative (Digits.decimal n) none none = some (integerValue negative n) := by
  have whole := Digits.natural_decimal n
  have read := accumulate_eq 0 (Digits.decimal n) (by rwa [whole])
  rw [whole] at read
  simp [numberValue?, read]

theorem readNumber_integer {n : Int} {rest : List Char} (fits : FitsWidth n)
    (ends : EndsNumber rest) :
    readNumber (Digits.integer n ++ rest) = some (some (.integer n), rest) := by
  obtain ⟨above, below⟩ := fits
  -- The sign of the least integer goes with a magnitude that only fits without sign.
  have least : Int64.minValue.toInt = -9223372036854775808 := by decide
  have greatest : UInt64.size = 18446744073709551616 := rfl
  have magnitude : n.natAbs < UInt64.size := by omega
  unfold Digits.integer
  split
  next negative =>
    rw [List.cons_append, readNumber_minus, readUnsigned_decimal true _ ends,
      numberValue?_decimal magnitude, integerValue, if_pos rfl, if_neg (by omega)]
    have same : -(n.natAbs : Int) = n := by omega
    rw [same]
  next =>
    obtain ⟨first, more, digits⟩ := List.exists_cons_of_ne_nil (Digits.decimal_ne_nil n.natAbs)
    have unsigned : first ≠ '-' := by
      have digit : first.isDigit = true :=
        Digits.isDigit_of_mem_decimal (digits ▸ List.mem_cons_self)
      rintro rfl
      cases digit
    have read := readUnsigned_decimal false n.natAbs ends
    rw [digits, List.cons_append] at read ⊢
    rw [readNumber_cons unsigned, read, ← digits, numberValue?_decimal magnitude, integerValue,
      if_neg (by decide)]
    have same : (n.natAbs : Int) = n := by omega
    rw [same]

/-! ### Text -/

theorem hexUnit?_hex {n : Nat} (small : n < 256) :
    hexUnit? '0' '0' (Digits.hex (n / 16)) (Digits.hex (n % 16)) = some n := by
  have zero : Digits.hexValue? '0' = some 0 := by decide
  have high := Digits.hexValue?_hex (n / 16) (by omega)
  have low := Digits.hexValue?_hex (n % 16) (Nat.mod_lt n (by decide))
  simp [hexUnit?, zero, high, low, Nat.div_add_mod']

/-- A character is read back from its escaped form. -/
theorem readCodes_escape (c : Char) (more : List Char) :
    readCodes (escape c ++ more) =
      (readCodes more).map fun (codes, rest) => (c.toNat :: codes, rest) := by
  unfold escape
  split
  next quote => simp [quote, readCodes, unescape?]
  split
  next backslash => simp [backslash, readCodes, unescape?]
  split
  next line => simp [line, readCodes, unescape?]
  split
  next carriage => simp [carriage, readCodes, unescape?]
  split
  next tab => simp [tab, readCodes, unescape?]
  split
  next back => simp [back, readCodes, unescape?]
  split
  next feed => simp [feed, readCodes, unescape?]
  split
  next control =>
    have unit := hexUnit?_hex (n := c.toNat) (by omega)
    simp [readCodes, unit]
  -- All other characters stand for themselves, and no escape starts with them.
  next quote backslash _ _ _ _ _ plain =>
    rw [List.singleton_append, readCodes, if_neg plain]
    · exact quote
    · intro _ _ _ _ _ same
      exact absurd same backslash
    · intro _ _ same
      exact absurd same backslash

theorem readCodes_quoted (chars rest : List Char) :
    readCodes (chars.flatMap escape ++ '"' :: rest) = some (chars.map Char.toNat, rest) := by
  induction chars with
  | nil => simp [readCodes]
  | cons c more ih => simp [List.append_assoc, readCodes_escape, ih]

/-- Characters are no halves of surrogate pairs. -/
theorem joinPairs?_toNat (chars : List Char) :
    joinPairs? (chars.map Char.toNat) = some chars := by
  induction chars with
  | nil => rfl
  | cons c rest ih =>
    have valid : c.toNat < 0xD800 ∨ 0xDFFF < c.toNat := by
      rcases c.valid with below | ⟨above, _⟩
      · exact .inl below
      · exact .inr above
    have high : isHighHalf c.toNat = false := by
      simp only [isHighHalf, Bool.and_eq_false_iff, decide_eq_false_iff_not]
      omega
    have low : isLowHalf c.toNat = false := by
      simp only [isLowHalf, Bool.and_eq_false_iff, decide_eq_false_iff_not]
      omega
    rw [List.map_cons, joinPairs?.eq_def]
    simp [high, low, ih]

theorem readText_quoted (text : String) (rest : List Char) :
    readText (text.toList.flatMap escape ++ '"' :: rest) = some (some text, rest) := by
  simp [readText, readCodes_quoted, joinPairs?_toNat]

/-! ### Documents -/

/-- A number is an integer that fits in 64 bits. -/
def Fits : Json → Prop
  | .integer n => FitsWidth n
  | .real _ => False
  | _ => True

/-- Every number of the document is an integer that fits in 64 bits. -/
def Integral (document : Json) : Prop := document.Everywhere Fits

theorem Integral.item {items : List Json} (integral : (list items).Integral) {item : Json}
    (member : item ∈ items) : item.Integral := by
  obtain ⟨_, parts⟩ := integral
  exact parts item member

theorem Integral.value {entries : List (String × Json)} (integral : (object entries).Integral)
    {entry : String × Json} (member : entry ∈ entries) : entry.2.Integral := by
  obtain ⟨_, parts⟩ := integral
  exact parts entry.2 (List.mem_map.mpr ⟨entry, member, rfl⟩)

theorem skipSpaces_cons {c : Char} (visible : isSpace c = false) (more : List Char) :
    skipSpaces (c :: more) = c :: more :=
  List.dropWhile_cons_of_neg (by simp [visible])

/-- An integer starts with its sign or with a digit. -/
theorem integer_head (n : Int) :
    ∃ c more, Digits.integer n = c :: more ∧ (c = '-' ∨ c.isDigit = true) := by
  unfold Digits.integer
  split
  next => exact ⟨'-', _, rfl, .inl rfl⟩
  next =>
    obtain ⟨c, more, digits⟩ := List.exists_cons_of_ne_nil (Digits.decimal_ne_nil n.natAbs)
    exact ⟨c, more, digits, .inr (Digits.isDigit_of_mem_decimal (digits ▸ List.mem_cons_self))⟩

theorem not_isSpace_of_numeric {c : Char} (numeric : c = '-' ∨ c.isDigit = true) :
    isSpace c = false := by
  rcases numeric with rfl | digit
  · rfl
  · by_contra space
    simp only [isSpace, Bool.not_eq_false, Bool.or_eq_true, decide_eq_true_eq] at space
    rcases space with ((rfl | rfl) | rfl) | rfl <;> cases digit

/-- What is written starts with neither space nor a closing bracket. -/
theorem write_head {document : Json} (integral : document.Integral) :
    ∃ c more, document.write = c :: more ∧ isSpace c = false ∧ c ≠ ']' := by
  cases document with
  | null => exact ⟨'n', _, rfl, rfl, by decide⟩
  | bool value => cases value <;> exact ⟨_, _, rfl, rfl, by decide⟩
  | integer n =>
    obtain ⟨c, more, digits, numeric⟩ := integer_head n
    refine ⟨c, more, by rw [write, digits], not_isSpace_of_numeric numeric, ?_⟩
    rintro rfl
    rcases numeric with impossible | impossible <;> cases impossible
  | real value => exact absurd integral.here id
  | string text => exact ⟨'"', _, rfl, rfl, by decide⟩
  | list items => exact ⟨'[', _, by rw [write], rfl, by decide⟩
  | object entries => exact ⟨'{', _, by rw [write], rfl, by decide⟩

theorem writeItems_cons (item next : Json) (more : List Json) :
    writeItems (item :: next :: more) = item.write ++ ',' :: writeItems (next :: more) := by
  rw [writeItems]
  exact List.cons_ne_nil _ _

theorem writeEntries_one (key : String) (value : Json) :
    writeEntries [(key, value)] = quoted key ++ ':' :: value.write := by
  rw [writeEntries]

theorem writeEntries_cons (key : String) (value : Json) (next : String × Json)
    (more : List (String × Json)) :
    writeEntries ((key, value) :: next :: more) =
      quoted key ++ ':' :: (value.write ++ ',' :: writeEntries (next :: more)) := by
  rw [writeEntries]
  exact List.cons_ne_nil _ _

theorem writeItems_head {item : Json} (integral : item.Integral) (items : List Json) :
    ∃ c more, writeItems (item :: items) = c :: more ∧ isSpace c = false ∧ c ≠ ']' := by
  obtain ⟨c, more, written, plain⟩ := write_head integral
  cases items with
  | nil => exact ⟨c, more, by rw [writeItems, written], plain⟩
  | cons next rest =>
    refine ⟨c, more ++ ',' :: writeItems (next :: rest), ?_, plain⟩
    rw [writeItems_cons, written, List.cons_append]

theorem writeEntries_head (key : String) (value : Json) (entries : List (String × Json)) :
    ∃ more, writeEntries ((key, value) :: entries) = '"' :: more := by
  cases entries with
  | nil => exact ⟨_, writeEntries_one key value⟩
  | cons next more => exact ⟨_, writeEntries_cons key value next more⟩

theorem readValue_integer {n : Int} {fuel : Nat} {rest : List Char} (fits : FitsWidth n)
    (ends : EndsNumber rest) :
    readValue (fuel + 1) (Digits.integer n ++ rest) =
      some (.leaf (some (.integer n)), rest) := by
  obtain ⟨c, more, digits, numeric⟩ := integer_head n
  have read := readNumber_integer fits ends
  rw [digits, List.cons_append] at read ⊢
  rw [readValue, skipSpaces_cons (not_isSpace_of_numeric numeric)]
  -- Neither a sign nor a digit starts any other document.
  split
  all_goals first
    | (next same =>
        obtain ⟨rfl, _⟩ := List.cons.inj same
        rcases numeric with impossible | impossible <;> cases impossible)
    | simp [read]

theorem endsNumber_cons {c : Char} (stops : c = ',' ∨ c = ']' ∨ c = '}') (rest : List Char) :
    EndsNumber (c :: rest) := by
  intro first here
  cases here
  rcases stops with rfl | rfl | rfl <;> decide

mutual

/-- What is written is read back whatever follows it. Each call takes a character or is followed by
one that does, which bounds the calls. -/
theorem readValue_write {document : Json} (integral : document.Integral) {fuel : Nat}
    {rest : List Char} (ends : EndsNumber rest) (enough : 2 * document.write.length ≤ fuel) :
    readValue fuel (document.write ++ rest) = some (document.written, rest) := by
  have filled : 0 < document.write.length := by
    obtain ⟨c, more, written, _⟩ := write_head integral
    simp [written]
  have positive : fuel ≠ 0 := by omega
  obtain ⟨fuel, rfl⟩ := Nat.exists_eq_add_one_of_ne_zero positive
  match document with
  | .null => rfl
  | .bool value => cases value <;> rfl
  | .integer n =>
    rw [write, written]
    exact readValue_integer integral.here ends
  | .real _ => exact absurd integral.here id
  | .string text =>
    have read := readText_quoted text rest
    rw [write, quoted, readValue, List.cons_append, skipSpaces_cons rfl]
    simp [written, read]
  | .list [] => rfl
  | .list (item :: items) =>
    have lengths : (write (.list (item :: items))).length =
        (writeItems (item :: items)).length + 2 := by simp [write]
    have inside : readItems fuel (writeItems (item :: items) ++ ']' :: rest) =
        some (writtenItems (item :: items), rest) :=
      readItems_write (fun _ => integral.item) (by omega)
    -- A first item does not look like the end of an empty list.
    obtain ⟨c, more, begun, visible, further⟩ :=
      writeItems_head (integral.item List.mem_cons_self) items
    rw [write, readValue, List.cons_append, skipSpaces_cons rfl, List.append_assoc,
      List.singleton_append]
    simp only
    rw [begun, List.cons_append] at inside ⊢
    rw [skipSpaces_cons visible]
    split
    next closed => exact absurd (List.cons.inj closed).1 further
    next => simp [inside, written]
  | .object [] => rfl
  | .object ((key, value) :: entries) =>
    have lengths : (write (.object ((key, value) :: entries))).length =
        (writeEntries ((key, value) :: entries)).length + 2 := by simp [write]
    have inside : readEntries fuel (writeEntries ((key, value) :: entries) ++ '}' :: rest) =
        some (writtenEntries ((key, value) :: entries), rest) :=
      readEntries_write (fun _ => integral.value) (by omega)
    obtain ⟨more, begun⟩ := writeEntries_head key value entries
    rw [write, readValue, List.cons_append, skipSpaces_cons rfl, List.append_assoc,
      List.singleton_append]
    simp only
    rw [begun, List.cons_append] at inside ⊢
    rw [skipSpaces_cons rfl]
    simp [inside, written]
termination_by fuel

theorem readItems_write {item : Json} {items : List Json}
    (integral : ∀ part ∈ item :: items, part.Integral) {fuel : Nat} {rest : List Char}
    (enough : 2 * (writeItems (item :: items)).length + 1 ≤ fuel) :
    readItems fuel (writeItems (item :: items) ++ ']' :: rest) =
      some (writtenItems (item :: items), rest) := by
  have positive : fuel ≠ 0 := by omega
  obtain ⟨fuel, rfl⟩ := Nat.exists_eq_add_one_of_ne_zero positive
  obtain ⟨here, further⟩ := List.forall_mem_cons.mp integral
  match items with
  | [] =>
    -- The bracket ends a number, and it ends the items.
    rw [writeItems] at enough ⊢
    have ends : EndsNumber (']' :: rest) := endsNumber_cons (.inr (.inl rfl)) rest
    have first := readValue_write here ends (show 2 * item.write.length ≤ fuel by omega)
    rw [readItems, first]
    simp [skipSpaces_cons, isSpace, writtenItems]
  | next :: more =>
    have ends : EndsNumber (',' :: (writeItems (next :: more) ++ ']' :: rest)) :=
      endsNumber_cons (.inl rfl) _
    rw [writeItems_cons, List.length_append, List.length_cons] at enough
    have first := readValue_write here ends (show 2 * item.write.length ≤ fuel by omega)
    have others : readItems fuel (writeItems (next :: more) ++ ']' :: rest) =
        some (writtenItems (next :: more), rest) :=
      readItems_write further (by omega)
    rw [writeItems_cons, List.append_assoc, List.cons_append, readItems, first]
    rw [writtenItems]
    simp [skipSpaces_cons, isSpace, others]
termination_by fuel

theorem readEntries_write {key : String} {value : Json} {entries : List (String × Json)}
    (integral : ∀ part ∈ (key, value) :: entries, part.2.Integral) {fuel : Nat} {rest : List Char}
    (enough : 2 * (writeEntries ((key, value) :: entries)).length + 1 ≤ fuel) :
    readEntries fuel (writeEntries ((key, value) :: entries) ++ '}' :: rest) =
      some (writtenEntries ((key, value) :: entries), rest) := by
  have positive : fuel ≠ 0 := by omega
  obtain ⟨fuel, rfl⟩ := Nat.exists_eq_add_one_of_ne_zero positive
  obtain ⟨here, further⟩ := List.forall_mem_cons.mp integral
  match entries with
  | [] =>
    rw [writeEntries_one, List.length_append, List.length_cons] at enough
    have ends : EndsNumber ('}' :: rest) := endsNumber_cons (.inr (.inr rfl)) rest
    have name := readText_quoted key (':' :: (value.write ++ '}' :: rest))
    have part := readValue_write here ends (show 2 * value.write.length ≤ fuel by omega)
    rw [writeEntries_one, quoted, List.append_assoc, List.cons_append, List.append_assoc,
      List.singleton_append, List.cons_append, readEntries, skipSpaces_cons rfl]
    simp [skipSpaces_cons, isSpace, name, part, writtenEntries]
  | (other, next) :: more =>
    have ends : EndsNumber (',' :: (writeEntries ((other, next) :: more) ++ '}' :: rest)) :=
      endsNumber_cons (.inl rfl) _
    rw [writeEntries_cons, List.length_append, List.length_cons, List.length_append,
      List.length_cons] at enough
    have name := readText_quoted key (':' :: (value.write ++
      ',' :: (writeEntries ((other, next) :: more) ++ '}' :: rest)))
    have part := readValue_write here ends (show 2 * value.write.length ≤ fuel by omega)
    have others : readEntries fuel (writeEntries ((other, next) :: more) ++ '}' :: rest) =
        some (writtenEntries ((other, next) :: more), rest) :=
      readEntries_write further (by omega)
    rw [writeEntries_cons, quoted, List.append_assoc, List.cons_append, List.append_assoc,
      List.singleton_append, List.cons_append, List.append_assoc, List.cons_append, readEntries,
      skipSpaces_cons rfl]
    rw [writtenEntries]
    simp [skipSpaces_cons, isSpace, name, part, others]
termination_by fuel

end

/-- The text of a document is read as that document. -/
theorem ofText?_compact {document : Json} (integral : document.Integral) :
    Written.ofText? document.compact = some document.written := by
  have ends : EndsNumber [] := by
    intro c here
    cases here
  have read : readValue (2 * document.write.length + 2) (document.write ++ []) =
      some (document.written, []) :=
    readValue_write integral ends (by omega)
  rw [List.append_nil] at read
  simp [Written.ofText?, compact, read, skipSpaces]

end Json

end RecordQuery
