import RecordQuery.Coercion
import RecordQuery.FilterDocument
import RecordQuery.Proofs.CivilCalendar
import RecordQuery.Proofs.IntegerTexts

/-!
# Texts of timestamps

A timestamp whose year has four digits is written as a text that reads back as it. All timestamps
are written apart, also those of other years, whose texts are not read, and those without a text.
-/

namespace RecordQuery

/-! ### Digits of a width -/

namespace Digits

variable {width n : Nat}

theorem isDigit_of_mem_padded {c : Char} (member : c ∈ padded width n) : c.isDigit = true := by
  rcases List.mem_append.mp member with zero | digit
  · rw [List.eq_of_mem_replicate zero]
    rfl
  · exact isDigit_of_mem_decimal digit

theorem padded_head (width n : Nat) :
    ∃ first more, padded width n = first :: more ∧ first.isDigit = true := by
  have filled : padded width n ≠ [] := List.append_ne_nil_of_right_ne_nil _ (decimal_ne_nil n)
  obtain ⟨first, more, digits⟩ := List.exists_cons_of_ne_nil filled
  exact ⟨first, more, digits, isDigit_of_mem_padded (digits ▸ List.mem_cons_self)⟩

theorem length_padded (wide : 0 < width) (fits : n < 10 ^ width) :
    (padded width n).length = width := by
  have short := (Nat.length_toDigits_le_iff (by decide) wide).mpr fits
  rw [padded, List.length_append, List.length_replicate]
  exact Nat.sub_add_cancel short

theorem natural_padded (width n : Nat) : natural 0 (padded width n) = n := by
  have zeros : natural 0 (List.replicate (width - (decimal n).length) '0') = 0 :=
    Nat.ofDigitChars_replicate_zero
  calc natural 0 (padded width n)
      = natural (natural 0 (List.replicate (width - (decimal n).length) '0')) (decimal n) :=
        List.foldl_append
    _ = n := by rw [zeros, natural_decimal]

theorem takeWhile_padded (width n : Nat) {rest : List Char}
    (ends : ∀ c ∈ rest.head?, c.isDigit = false) :
    (padded width n ++ rest).takeWhile Char.isDigit = padded width n ∧
      (padded width n ++ rest).dropWhile Char.isDigit = rest :=
  takeWhile_append (fun _ => isDigit_of_mem_padded) ends

end Digits

namespace Timestamp

/-! ### Parts of a text -/

theorem readNatural?_padded {width n : Nat} (wide : 0 < width) (fits : n < 10 ^ width)
    (rest : List Char) :
    readNatural? width (Digits.padded width n ++ rest) = some (n, rest) := by
  have length := Digits.length_padded wide fits
  have all : (Digits.padded width n).all Char.isDigit = true :=
    List.all_eq_true.mpr fun _ => Digits.isDigit_of_mem_padded
  unfold readNatural?
  rw [List.take_left' length, List.drop_left' length]
  dsimp only
  rw [if_pos ⟨length, all⟩, Digits.natural_padded]

/-- Numbers of one width are told apart whatever follows them. -/
theorem eq_of_padded_append {width n n' : Nat} (wide : 0 < width) (fits : n < 10 ^ width)
    (fits' : n' < 10 ^ width) {rest rest' : List Char}
    (same : Digits.padded width n ++ rest = Digits.padded width n' ++ rest') :
    n = n' ∧ rest = rest' := by
  have read := congrArg (readNatural? width) same
  rwa [readNatural?_padded wide fits, readNatural?_padded wide fits', Option.some.injEq,
    Prod.mk.injEq] at read

/-- The digits of a valid date fit in their widths. -/
theorem month_day_lt {date : CivilDate} (valid : date.isValid = true) :
    date.month < 10 ^ 2 ∧ date.day < 10 ^ 2 := by
  obtain ⟨_, high, _, last⟩ := CivilDate.isValid_iff.mp valid
  have longest : CivilDate.monthLength date.year date.month ≤ 31 := by
    unfold CivilDate.monthLength
    split <;> split <;> decide
  omega

theorem readDate?_dateText {date : CivilDate} (valid : date.isValid = true)
    (low : 0 ≤ date.year) (high : date.year ≤ 9999) (rest : List Char) :
    readDate? (dateText date ++ rest) = some (date, rest) := by
  obtain ⟨month, day⟩ := month_day_lt valid
  have whole : ((date.year.toNat : Nat) : Int) = date.year := Int.toNat_of_nonneg low
  have year : date.year.toNat < 10 ^ 4 := by omega
  have text : dateText date ++ rest =
      Digits.padded 4 date.year.toNat ++ ('-' :: (Digits.padded 2 date.month ++
        ('-' :: (Digits.padded 2 date.day ++ rest)))) := by
    rw [dateText, yearText, if_pos ⟨low, high⟩]
    simp only [List.append_assoc, List.cons_append]
  have dash (rest : List Char) : readMark? ['-'] ('-' :: rest) = some rest := rfl
  have two : 0 < 2 := by decide
  unfold readDate?
  rw [text, readNatural?_padded (by decide) year]
  simp only [Option.bind_eq_bind, Option.bind_some, dash, readNatural?_padded two month,
    readNatural?_padded two day, whole, valid, if_true]

theorem readFraction?_fractionText {micros : Nat} (fits : micros < 1000000) {rest : List Char}
    (ends : ∀ c ∈ rest.head?, c.isDigit = false ∧ c ≠ '.') :
    readFraction? (fractionText micros ++ rest) = some (micros, rest) := by
  -- Three digits or six, of which three more zeros make six.
  have written (width count : Nat) (wide : 0 < width) (six : width + count = 6) {n : Nat}
      (small : n < 10 ^ width) :
      readFraction? ('.' :: Digits.padded width n ++ rest) = some (Nat.pow 10 count * n, rest) := by
    obtain ⟨taken, dropped⟩ := Digits.takeWhile_padded width n fun c here => (ends c here).1
    have length := Digits.length_padded wide small
    have filled : (Digits.padded width n).isEmpty = false := by
      rw [List.isEmpty_eq_false_iff, ← List.length_pos_iff, length]
      exact wide
    have zeros : (Digits.padded width n ++ List.replicate 6 '0').take 6 =
        Digits.padded width n ++ List.replicate count '0' := by
      rw [List.take_append, length, List.take_of_length_le (by omega), List.take_replicate]
      congr 2
      omega
    simp only [List.cons_append, readFraction?, taken, dropped, filled, zeros,
      Digits.natural_append_zeros, Digits.natural_padded]
    rfl
  unfold fractionText
  split
  next none =>
    subst none
    rw [List.nil_append]
    unfold readFraction?
    split
    next more => exact absurd rfl (ends '.' rfl).2
    next => rfl
  split
  next thousands =>
    rw [written 3 3 (by decide) rfl (by omega)]
    have whole : Nat.pow 10 3 * (micros / 1000) = micros :=
      Nat.mul_div_cancel' (Nat.dvd_of_mod_eq_zero thousands)
    rw [whole]
  next =>
    have whole : Nat.pow 10 0 * micros = micros := Nat.one_mul micros
    rw [written 6 0 (by decide) rfl fits, whole]

theorem readTime?_timeText {micros : Nat} (fits : micros < 86400000000) {rest : List Char}
    (ends : ∀ c ∈ rest.head?, c.isDigit = false ∧ c ≠ '.') :
    readTime? (timeText micros ++ rest) = some (micros, rest) := by
  have hour : micros / 1000000 / 3600 < 10 ^ 2 := by omega
  have minute : micros / 1000000 / 60 % 60 < 10 ^ 2 := by omega
  have second : micros / 1000000 % 60 < 10 ^ 2 := by omega
  have fraction := readFraction?_fractionText (Nat.mod_lt micros (by decide)) ends
  have colon (rest : List Char) : readMark? [':'] (':' :: rest) = some rest := rfl
  have two : 0 < 2 := by decide
  have total : ((micros / 1000000 / 3600 * 60 + micros / 1000000 / 60 % 60) * 60 +
      micros / 1000000 % 60) * 1000000 + micros % 1000000 = micros := by omega
  unfold readTime? timeText
  simp only [List.append_assoc, List.cons_append, Option.bind_eq_bind, Option.bind_some, colon,
    readNatural?_padded two hour, readNatural?_padded two minute, readNatural?_padded two second,
    fraction]
  rw [if_pos (by omega), total]

/-- The fraction of a time ends before the offset. -/
theorem ends_offset : ∀ c ∈ "+00:00".toList.head?, c.isDigit = false ∧ c ≠ '.' := by
  intro c here
  cases here
  decide

/-- The time of a timestamp is less than a day, also before 1970. -/
theorem time_lt (micros : Int) : 0 ≤ micros % day ∧ micros % day < 86400000000 := by
  unfold day second
  omega

/-! ### Texts and timestamps -/

/-- The timestamp is one of the date, which is that of the offset zero. -/
structure FallsOn (micros : Int64) (date : CivilDate) : Prop where
  valid : date.isValid = true
  day_eq : date.toDays = micros.toInt / day

theorem fallsOn_iff {micros : Int64} {date : CivilDate} :
    FallsOn micros date ↔ CivilDate.ofDays (micros.toInt / day) = date :=
  Iff.trans ⟨fun falls => ⟨falls.valid, falls.day_eq⟩, fun falls => ⟨falls.1, falls.2⟩⟩
    CivilDate.ofDays_eq_iff.symm

theorem existsUnique_fallsOn (micros : Int64) : ∃! date, FallsOn micros date :=
  ⟨_, fallsOn_iff.mpr rfl, fun _ falls => (fallsOn_iff.mp falls).symm⟩

/-- The characters of the text of a timestamp that falls on a date. -/
def characters (micros : Int64) (date : CivilDate) : List Char :=
  dateText date ++ 'T' :: timeText (micros.toInt % day).toNat ++ "+00:00".toList

theorem text?_eq_some {micros : Int64} {date : CivilDate} (falls : FallsOn micros date)
    {text : String} :
    text? micros = some text ↔
      firstDay ≤ date.toDays ∧ date.toDays ≤ lastDay ∧
        String.ofList (characters micros date) = text := by
  have written := fallsOn_iff.mp falls
  unfold text? characters
  rw [falls.day_eq]
  simp only [written, Option.ite_none_right_eq_some, Option.some.injEq, and_assoc]

/-- All years of four digits have texts. -/
theorem text?_of_fallsOn {micros : Int64} {date : CivilDate} (falls : FallsOn micros date)
    (low : 0 ≤ date.year) (high : date.year ≤ 9999) :
    text? micros = some (String.ofList (characters micros date)) := by
  have first : firstDay = -96465292 := by decide
  have last : lastDay = 95026236 := by decide
  have start := CivilDate.dayOfYear_nonneg falls.valid
  obtain ⟨_, _, _, _, stop⟩ := CivilDate.isValid_iff_dayOfYear.mp falls.valid
  have lengths := CivilDate.yearLength_cases date.marchYear
  have years : -1 ≤ date.marchYear ∧ date.marchYear ≤ 9999 := by
    unfold CivilDate.marchYear
    split <;> omega
  have days := CivilDate.toDays_eq_sum date
  exact (text?_eq_some falls).mpr ⟨by omega, by omega, rfl⟩

/-- A timestamp of a year of four digits is read from its text. -/
theorem read?_characters {micros : Int64} {date : CivilDate} (falls : FallsOn micros date)
    (low : 0 ≤ date.year) (high : date.year ≤ 9999) :
    read? (characters micros date) = some micros := by
  have time := time_lt micros.toInt
  have whole : ((micros.toInt % day).toNat : Int) = micros.toInt % day :=
    Int.toNat_of_nonneg time.1
  have within : (micros.toInt % day).toNat < 86400000000 := by omega
  have written (rest : List Char) := readDate?_dateText falls.valid low high rest
  have mark (rest : List Char) : readMark? ['T', 't', ' '] ('T' :: rest) = some rest := rfl
  have offset : readOffset? "+00:00".toList = some (0, []) := by decide
  have sum : micros.toInt / day * day + micros.toInt % day - 0 * 60 * second = micros.toInt := by
    rw [Int.ediv_mul_add_emod]
    omega
  unfold read? characters
  simp only [List.append_assoc, List.cons_append, Option.bind_eq_bind, Option.bind_some, written,
    mark, readTime?_timeText within ends_offset, offset, falls.day_eq, whole, sum,
    List.isEmpty_nil, if_true, Int64.ofInt_toInt]

theorem trim_characters {micros : Int64} {date : CivilDate} (low : 0 ≤ date.year)
    (high : date.year ≤ 9999) :
    Text.trim (characters micros date) = characters micros date := by
  obtain ⟨first, more, digits, digit⟩ := Digits.padded_head 4 date.year.toNat
  obtain ⟨inner, text⟩ : ∃ inner, characters micros date = first :: inner ++ ['0'] := by
    unfold characters dateText yearText
    rw [if_pos ⟨low, high⟩, digits]
    exact ⟨_, (List.append_assoc _ "+00:0".toList ['0']).symm⟩
  rw [text]
  exact Text.trim_of_ends (Text.not_isBlank_of_numeric (.inr digit)) (by decide)

/-! ### Timestamps apart -/

/-- The year at the head of a text, behind its sign if it has one, and the text behind it. -/
def readYear (text : List Char) : Int × List Char :=
  let (negative, digits) := Numeral.sign text
  let year : Int := Digits.natural 0 (digits.takeWhile Char.isDigit)
  (if negative then -year else year, digits.dropWhile Char.isDigit)

theorem readYear_yearText (year : Int) {rest : List Char}
    (ends : ∀ c ∈ rest.head?, c.isDigit = false) :
    readYear (yearText year ++ rest) = (year, rest) := by
  unfold yearText
  split
  next short =>
    obtain ⟨taken, dropped⟩ := Digits.takeWhile_padded 4 year.toNat ends
    obtain ⟨first, more, digits, digit⟩ := Digits.padded_head 4 year.toNat
    have unsigned : Numeral.sign (Digits.padded 4 year.toNat ++ rest) =
        (false, Digits.padded 4 year.toNat ++ rest) := by
      rw [digits]
      exact Numeral.sign_of_isDigit digit _
    have whole : ((year.toNat : Nat) : Int) = year := Int.toNat_of_nonneg short.1
    simp [readYear, unsigned, taken, dropped, Digits.natural_padded, whole]
  next long =>
    -- The width is only the least one here, so the digits are read up to their end.
    obtain ⟨taken, dropped⟩ := Digits.takeWhile_padded 4 year.natAbs ends
    by_cases negative : year < 0
    · have magnitude : -(year.natAbs : Int) = year := by omega
      simp only [negative, if_true, List.cons_append, readYear, Numeral.sign, taken, dropped,
        Digits.natural_padded, magnitude]
    · have magnitude : (year.natAbs : Int) = year := by omega
      simp only [negative, if_false, List.cons_append, readYear, Numeral.sign, taken, dropped,
        Digits.natural_padded, magnitude]
      rfl

/-- Dates are told apart whatever follows them. -/
theorem eq_of_dateText_append {date date' : CivilDate} (valid : date.isValid = true)
    (valid' : date'.isValid = true) {rest rest' : List Char}
    (same : dateText date ++ rest = dateText date' ++ rest') : date = date' ∧ rest = rest' := by
  obtain ⟨month, day⟩ := month_day_lt valid
  obtain ⟨month', day'⟩ := month_day_lt valid'
  have dash (text : List Char) : ∀ c ∈ ('-' :: text).head?, c.isDigit = false := by
    intro c here
    cases here
    rfl
  unfold dateText at same
  simp only [List.append_assoc, List.cons_append] at same
  -- The years may differ in their number of digits, all else has one width.
  have years := congrArg readYear same
  rw [readYear_yearText _ (dash _), readYear_yearText _ (dash _), Prod.mk.injEq,
    List.cons.injEq] at years
  obtain ⟨sameYear, _, behindYear⟩ := years
  obtain ⟨sameMonth, behindMonth⟩ := eq_of_padded_append (by decide) month month' behindYear
  rw [List.cons.injEq] at behindMonth
  obtain ⟨sameDay, behindDay⟩ := eq_of_padded_append (by decide) day day' behindMonth.2
  obtain ⟨year, month, day⟩ := date
  cases sameYear
  cases sameMonth
  cases sameDay
  exact ⟨rfl, behindDay⟩

/-- No two timestamps have one text. -/
theorem eq_of_text? {micros micros' : Int64} {text : String} (written : text? micros = some text)
    (written' : text? micros' = some text) : micros = micros' := by
  obtain ⟨date, falls, _⟩ := existsUnique_fallsOn micros
  obtain ⟨date', falls', _⟩ := existsUnique_fallsOn micros'
  obtain ⟨_, _, rfl⟩ := (text?_eq_some falls).mp written
  obtain ⟨_, _, same⟩ := (text?_eq_some falls').mp written'
  have texts := String.ofList_injective same
  simp only [characters, List.append_assoc, List.cons_append] at texts
  obtain ⟨rfl, behind⟩ := eq_of_dateText_append falls'.valid falls.valid texts
  -- Behind the date the times are read back, and date and time make up the timestamp.
  have time := time_lt micros.toInt
  have time' := time_lt micros'.toInt
  have times := congrArg readTime? (List.cons.inj behind).2
  rw [readTime?_timeText (by omega) ends_offset, readTime?_timeText (by omega) ends_offset] at times
  have sameTime : micros'.toInt % day = micros.toInt % day := by
    have naturals := (Prod.mk.inj (Option.some.inj times)).1
    omega
  have sameDay : micros'.toInt / day = micros.toInt / day := falls'.day_eq.symm.trans falls.day_eq
  apply Int64.toInt_inj.mp
  calc micros.toInt
      = micros.toInt / day * day + micros.toInt % day := (Int.ediv_mul_add_emod _ _).symm
    _ = micros'.toInt / day * day + micros'.toInt % day := by rw [sameDay, sameTime]
    _ = micros'.toInt := Int.ediv_mul_add_emod _ _

end Timestamp

theorem Json.single_inj {key : String} {value value' : Json} :
    Json.single key value = Json.single key value' ↔ value = value' := by
  simp [Json.single]

/-- Timestamps have documents apart, with a text or without one. -/
theorem FilterDocument.eq_of_encode_timestamp {micros micros' : Int64}
    (same : encode (.timestamp micros) = encode (.timestamp micros')) : micros = micros' := by
  unfold encode at same
  dsimp only at same
  cases written : Timestamp.text? micros with
  | some text =>
    cases written' : Timestamp.text? micros' with
    | some text' =>
      rw [written, written', Json.single_inj, Json.string.injEq] at same
      subst same
      exact Timestamp.eq_of_text? written written'
    | none =>
      -- A text is no object.
      rw [written, written', Json.single_inj] at same
      cases same
  | none =>
    cases written' : Timestamp.text? micros' with
    | some text' =>
      rw [written, written', Json.single_inj] at same
      cases same
    | none =>
      -- Without texts the counts themselves are written.
      rw [written, written', Json.single_inj, Json.single_inj, Json.string.injEq] at same
      have counts := congrArg Numeral.integer? (String.ofList_injective same)
      rw [(Numeral.writes_integer _).integer?, (Numeral.writes_integer _).integer?] at counts
      exact Int64.toInt_inj.mp (Option.some.inj counts)

theorem FieldType.coerce_text {micros : Int64} {date : CivilDate}
    (falls : Timestamp.FallsOn micros date) (low : 0 ≤ date.year) (high : date.year ≤ 9999)
    {type : FieldType} (scalar : type.scalar? = some .timestamp) (field : String) :
    type.coerce field (.string (String.ofList (Timestamp.characters micros date))) =
      .ok (.timestamp micros) := by
  have read : ScalarType.timestamp.read? (String.ofList (Timestamp.characters micros date)) =
      some (.timestamp micros) := by
    simp [ScalarType.read?, ScalarType.readTimestamp?, Timestamp.trim_characters low high,
      Timestamp.read?_characters falls low high]
  cases type <;> cases scalar <;> simp only [coerce, FieldType.read, Literal.text, read]

/-- A timestamp of a year from 0 to 9999 is the value of its own text, for a field of any type that
holds timestamps, and no two timestamps of any year are encoded alike. -/
theorem timestamps_survive_text :
    (∀ (micros : Int64) (date : CivilDate), Timestamp.FallsOn micros date → 0 ≤ date.year →
      date.year ≤ 9999 →
      ∃ text, Timestamp.text? micros = some text ∧
        ∀ (type : FieldType) (field : String), type.scalar? = some .timestamp →
          type.coerce field (.string text) = .ok (.timestamp micros)) ∧
    Function.Injective fun micros : Int64 => FilterDocument.encode (.timestamp micros) := by
  refine ⟨fun micros date falls low high => ?_, fun _ _ => FilterDocument.eq_of_encode_timestamp⟩
  refine ⟨_, Timestamp.text?_of_fallsOn falls low high, fun type field scalar => ?_⟩
  exact FieldType.coerce_text falls low high scalar field

/-- The last microsecond of a leap day before 1970. -/
def Sample.leapNight : Int64 := -2077660800000001

theorem Sample.leapNight_survives :
    Timestamp.FallsOn leapNight ⟨1904, 2, 29⟩ ∧
      Timestamp.text? leapNight = some "1904-02-29T23:59:59.999999+00:00" ∧
      (FieldType.optionalScalar .timestamp).coerce "seen"
        (.string "1904-02-29T23:59:59.999999+00:00") = .ok (.timestamp leapNight) ∧
      FilterDocument.encode (.timestamp leapNight) ≠
        FilterDocument.encode (.timestamp (leapNight + 1)) := by
  have falls : Timestamp.FallsOn leapNight ⟨1904, 2, 29⟩ := ⟨by decide, by decide⟩
  obtain ⟨survives, apart⟩ := timestamps_survive_text
  obtain ⟨text, written, read⟩ := survives _ _ falls (by decide) (by decide)
  have shown : Timestamp.text? leapNight = some "1904-02-29T23:59:59.999999+00:00" := by decide
  rw [shown, Option.some.injEq] at written
  subst written
  exact ⟨falls, shown, read _ _ rfl, apart.ne (by decide)⟩

end RecordQuery
