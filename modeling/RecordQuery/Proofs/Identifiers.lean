import RecordQuery.Proofs.CanonicalTexts

/-!
# Texts of identifiers

An identifier is displayed byte by byte and written group by group, which gives one text. It is read
from four forms, with hyphens or without, in braces or behind the name of the scheme, in letters of
any case and between any blanks, and from no other text.
-/

namespace RecordQuery

/-! ### Hexadecimal digits -/

namespace Digits

variable {c : Char} {n : Nat}

theorem toNat_hex : ∀ n < 16, (hex n).toNat = if n < 10 then 48 + n else 87 + n := by decide

/-- The codes of a digit: one for a decimal digit, and one for either case of a letter. -/
theorem hexValue?_iff_toNat : hexValue? c = some n ↔
    n < 16 ∧ if n < 10 then c.toNat = 48 + n else c.toNat = 87 + n ∨ c.toNat = 55 + n := by
  have bounds : '0'.toNat = 48 ∧ '9'.toNat = 57 ∧ 'a'.toNat = 97 ∧ 'f'.toNat = 102 ∧
    'A'.toNat = 65 ∧ 'F'.toNat = 70 := by decide
  have le_iff (d e : Char) : d ≤ e ↔ d.toNat ≤ e.toNat := UInt32.le_iff_toNat_le
  simp only [hexValue?, le_iff, bounds]
  grind

/-- The characters that are read as a digit are the written one and its capital. -/
theorem hexValue?_eq_some : hexValue? c = some n ↔ n < 16 ∧ c.toLower = hex n := by
  rw [hexValue?_iff_toNat]
  refine and_congr_right fun small => ?_
  rw [← Char.toNat_inj, Text.toNat_toLower, toNat_hex n small]
  grind

end Digits

/-! ### Blanks around a text -/

namespace Text

/-- Of the first codes only those up to the space are blank. -/
theorem not_isBlank_of_toNat {c : Char} (above : 32 < c.toNat) (below : c.toNat < 128) :
    isBlank c = false := by
  have visible : ∀ code < 128, 32 < code → blankRanges.contains code = false := by decide
  exact visible c.toNat below above

/-- No letter is blank, so that blanks are not folded. -/
theorem isBlank_toLower (c : Char) : isBlank c.toLower = isBlank c := by
  have folded := toNat_toLower c
  by_cases capital : 65 ≤ c.toNat ∧ c.toNat ≤ 90
  · rw [if_pos capital] at folded
    rw [not_isBlank_of_toNat (by omega) (by omega), not_isBlank_of_toNat (by omega) (by omega)]
  · rw [if_neg capital] at folded
    rw [Char.toNat_inj.mp folded]

theorem AlikeInCase.visible {text other : List Char} (alike : AlikeInCase text other)
    (visible : ∀ c ∈ other, isBlank c = false) : ∀ c ∈ text, isBlank c = false := by
  intro c member
  have folded : c.toLower ∈ other.map Char.toLower := alike ▸ List.mem_map_of_mem member
  obtain ⟨d, listed, same⟩ := List.mem_map.mp folded
  rw [← isBlank_toLower, ← same, isBlank_toLower]
  exact visible d listed

/-- Blanks around a visible text are trimmed, and nothing else. -/
theorem trim_surrounded {before text behind : List Char} (blank : ∀ c ∈ before, isBlank c = true)
    (blank' : ∀ c ∈ behind, isBlank c = true) (visible : ∀ c ∈ text, isBlank c = false) :
    trim (before ++ text ++ behind) = text := by
  cases text with
  | nil =>
    have all : trimStart (before ++ [] ++ behind) = [] := by
      rw [trimStart, List.dropWhile_eq_nil_iff]
      simpa [or_imp, forall_and] using ⟨blank, blank'⟩
    rw [trim, all]
    rfl
  | cons first rest =>
    have shown : isBlank first = false := visible first List.mem_cons_self
    have start : trimStart (before ++ (first :: rest) ++ behind) = first :: rest ++ behind := by
      rw [trimStart, List.append_assoc, List.dropWhile_append_of_pos blank]
      exact trimStart_of_not_isBlank first (rest ++ behind) shown
    have stop : trimStart (first :: rest ++ behind).reverse = (first :: rest).reverse := by
      rw [trimStart, List.reverse_append, List.dropWhile_append_of_pos]
      · exact trimStart_of_visible fun c member => visible c (List.mem_reverse.mp member)
      · exact fun c member => blank' c (List.mem_reverse.mp member)
    rw [trim, start, stop, List.reverse_reverse]

end Text

namespace Uuid

open Digits (hex hexValue? hexValue?_eq_some)
open Text (AlikeInCase)

/-! ### Bytes and their digits -/

theorem length_flatMap_byteText (bytes : List UInt8) :
    (bytes.flatMap byteText).length = 2 * bytes.length := by
  induction bytes with
  | nil => rfl
  | cons byte rest ih =>
    rw [List.flatMap_cons, List.length_append, ih, List.length_cons]
    show 2 + 2 * rest.length = 2 * (rest.length + 1)
    omega

/-- Two digits are read as a byte exactly when they are its two digits in some case. -/
theorem pair_eq_byte {high low : Char} {byte : UInt8} :
    (∃ h l, hexValue? high = some h ∧ hexValue? low = some l ∧ UInt8.ofNat (16 * h + l) = byte) ↔
      [high.toLower, low.toLower] = byteText byte := by
  have size := byte.toNat_lt
  simp only [byteText, List.cons.injEq, and_true]
  constructor
  · rintro ⟨h, l, readHigh, readLow, rfl⟩
    obtain ⟨smallHigh, sameHigh⟩ := hexValue?_eq_some.mp readHigh
    obtain ⟨smallLow, sameLow⟩ := hexValue?_eq_some.mp readLow
    have whole : (UInt8.ofNat (16 * h + l)).toNat = 16 * h + l :=
      UInt8.toNat_ofNat_of_lt' (show 16 * h + l < 256 by omega)
    have upper : (16 * h + l) / 16 = h := by omega
    have lower : (16 * h + l) % 16 = l := by omega
    rw [whole, upper, lower]
    exact ⟨sameHigh, sameLow⟩
  · rintro ⟨sameHigh, sameLow⟩
    refine ⟨byte.toNat / 16, byte.toNat % 16, ?_, ?_, ?_⟩
    · exact hexValue?_eq_some.mpr ⟨by omega, sameHigh⟩
    · exact hexValue?_eq_some.mpr ⟨by omega, sameLow⟩
    · rw [Nat.div_add_mod, UInt8.ofNat_toNat]

theorem bytes?_cons_cons {high low : Char} {rest : List Char} {bytes : List UInt8} :
    bytes? (high :: low :: rest) = some bytes ↔
      ∃ byte others, [high.toLower, low.toLower] = byteText byte ∧ bytes? rest = some others ∧
        byte :: others = bytes := by
  simp only [← pair_eq_byte, bytes?, Option.bind_eq_bind, Option.bind_eq_some_iff, Option.pure_def,
    Option.some.injEq]
  constructor
  · rintro ⟨h, readHigh, l, readLow, others, readRest, rfl⟩
    exact ⟨_, others, ⟨h, l, readHigh, readLow, rfl⟩, readRest, rfl⟩
  · rintro ⟨_, others, ⟨h, l, readHigh, readLow, rfl⟩, readRest, rfl⟩
    exact ⟨h, readHigh, l, readLow, others, readRest, rfl⟩

/-- Digits are read as the bytes that are written with them, whatever the case of the letters. -/
theorem bytes?_eq_some {digits : List Char} {bytes : List UInt8} :
    bytes? digits = some bytes ↔ digits.map Char.toLower = bytes.flatMap byteText := by
  induction digits using bytes?.induct generalizing bytes with
  | case1 => cases bytes <;> simp [bytes?, byteText]
  | case2 => cases bytes <;> simp [bytes?, byteText]
  | case3 high low rest ih =>
    rw [bytes?_cons_cons]
    constructor
    · rintro ⟨byte, others, pair, read, rfl⟩
      rw [List.flatMap_cons, ← pair, ← ih.mp read]
      rfl
    · intro same
      cases bytes with
      | nil => cases same
      | cons byte others =>
        -- A byte has two digits, so the others are those of the other bytes.
        obtain ⟨pair, behind⟩ := List.append_inj
          (show [high.toLower, low.toLower] ++ rest.map Char.toLower =
            byteText byte ++ others.flatMap byteText from same) rfl
        exact ⟨byte, others, pair, ih.mpr behind, rfl⟩

/-! ### Groups of digits -/

/-- A list falls into five groups of given lengths. -/
theorem exists_groups {α : Type} {items : List α} (one two three four five : Nat)
    (length : items.length = one + two + three + four + five) :
    ∃ first second third fourth fifth : List α,
      (first.length = one ∧ second.length = two ∧ third.length = three ∧ fourth.length = four ∧
        fifth.length = five) ∧
      items = first ++ (second ++ (third ++ (fourth ++ fifth))) := by
  have next (skip width : Nat) :
      (items.drop skip).take width ++ items.drop (skip + width) = items.drop skip := by
    rw [← List.drop_drop, List.take_append_drop]
  refine ⟨(items.drop 0).take one, (items.drop (0 + one)).take two,
    (items.drop (0 + one + two)).take three, (items.drop (0 + one + two + three)).take four,
    items.drop (0 + one + two + three + four), ?_, ?_⟩
  · simp only [List.length_take, List.length_drop]
    omega
  · rw [next, next, next, next, List.drop_zero]

/-- Digits with hyphens between their groups. -/
def hyphenated (digits : List Char) : List Char :=
  digits.take 8 ++ '-' :: (digits.drop 8).take 4 ++ '-' :: (digits.drop 12).take 4 ++
    '-' :: (digits.drop 16).take 4 ++ '-' :: digits.drop 20

/-- The digits of an identifier without hyphens. -/
def digits (uuid : Uuid) : List Char := uuid.bytes.flatMap byteText

theorem length_digits (uuid : Uuid) : uuid.digits.length = 32 := by
  rw [digits, length_flatMap_byteText, uuid.size_eq]

theorem toList_text (uuid : Uuid) : uuid.text.toList = hyphenated uuid.digits :=
  String.toList_ofList

theorem map_toLower_hyphenated (digits : List Char) :
    (hyphenated digits).map Char.toLower = hyphenated (digits.map Char.toLower) := by
  have dash : '-'.toLower = '-' := rfl
  simp [hyphenated, dash]

section Groups

variable {first second third fourth fifth : List Char}

theorem hyphenated_groups (one : first.length = 8) (two : second.length = 4)
    (three : third.length = 4) (four : fourth.length = 4) :
    hyphenated (first ++ (second ++ (third ++ (fourth ++ fifth)))) =
      first ++ '-' :: (second ++ '-' :: (third ++ '-' :: (fourth ++ '-' :: fifth))) := by
  simp [hyphenated, List.drop_append, List.drop_of_length_le, one, two, three, four]

theorem withoutHyphens?_groups (one : first.length = 8) (two : second.length = 4)
    (three : third.length = 4) (four : fourth.length = 4) (five : fifth.length = 12) :
    withoutHyphens?
        (first ++ '-' :: (second ++ '-' :: (third ++ '-' :: (fourth ++ '-' :: fifth)))) =
      some (first ++ (second ++ (third ++ (fourth ++ fifth)))) := by
  simp [withoutHyphens?, List.drop_append, List.drop_of_length_le, one, two, three, four, five]

end Groups

/-- A character of a text parts it, also behind some others. -/
theorem cut_at {text : List Char} (skip : Nat) {place : Nat} {c : Char}
    (mark : text[skip + place]? = some c) :
    (text.drop skip).take place ++ c :: text.drop (skip + place + 1) = text.drop skip := by
  rw [← List.getElem?_drop] at mark
  obtain ⟨within, rfl⟩ := List.getElem?_eq_some_iff.mp mark
  rw [Nat.add_assoc, ← List.drop_drop, ← List.drop_eq_getElem_cons, List.take_append_drop]

theorem withoutHyphens?_eq_some {text digits : List Char} :
    withoutHyphens? text = some digits ↔ digits.length = 32 ∧ hyphenated digits = text := by
  constructor
  · intro found
    simp only [withoutHyphens?, Option.ite_none_right_eq_some, Option.some.injEq] at found
    obtain ⟨⟨length, one, two, three, four⟩, rfl⟩ := found
    have parted : text.take 8 ++ '-' :: ((text.drop 9).take 4 ++ '-' :: ((text.drop 14).take 4 ++
        '-' :: ((text.drop 19).take 4 ++ '-' :: text.drop 24))) = text := by
      rw [cut_at 19 four, cut_at 14 three, cut_at 9 two]
      exact cut_at 0 one
    constructor
    · simp [length]
    · simp only [List.append_assoc]
      rw [hyphenated_groups (by simp [length]) (by simp [length]) (by simp [length])
        (by simp [length])]
      exact parted
  · rintro ⟨length, rfl⟩
    obtain ⟨first, second, third, fourth, fifth, ⟨one, two, three, four, five⟩, rfl⟩ :=
      exists_groups 8 4 4 4 12 length
    rw [hyphenated_groups one two three four]
    exact withoutHyphens?_groups one two three four five

/-! ### The displayed text -/

section Display

variable {index : Nat} {bytes : List UInt8}

theorem textFrom_append (index : Nat) (bytes more : List UInt8) :
    textFrom index (bytes ++ more) =
      textFrom index bytes ++ textFrom (index + bytes.length) more := by
  induction bytes generalizing index with
  | nil => rfl
  | cons byte rest ih =>
    have behind : index + 1 + rest.length = index + (rest.length + 1) := by omega
    simp only [List.cons_append, textFrom, ih, List.length_cons, List.append_assoc, behind]

/-- Bytes of which none starts a group have no hyphens. -/
theorem textFrom_inner
    (inner : ∀ place, index ≤ place → place < index + bytes.length → place ∉ [4, 6, 8, 10]) :
    textFrom index bytes = bytes.flatMap byteText := by
  induction bytes generalizing index with
  | nil => rfl
  | cons byte rest ih =>
    rw [List.length_cons] at inner
    have here : index ∉ [4, 6, 8, 10] := inner index (Nat.le_refl _) (by omega)
    have later : textFrom (index + 1) rest = rest.flatMap byteText :=
      ih fun place above below => inner place (by omega) (by omega)
    simp only [List.mem_cons, List.not_mem_nil, or_false] at here
    rw [textFrom, if_neg here, later, List.flatMap_cons]
    rfl

/-- Bytes of which only the first one starts a group have one hyphen. -/
theorem textFrom_group (starts : index ∈ [4, 6, 8, 10]) (filled : 0 < bytes.length)
    (inner : ∀ place, index < place → place < index + bytes.length → place ∉ [4, 6, 8, 10]) :
    textFrom index bytes = '-' :: bytes.flatMap byteText := by
  obtain ⟨byte, rest, rfl⟩ := List.exists_cons_of_length_pos filled
  rw [List.length_cons] at inner
  have later : textFrom (index + 1) rest = rest.flatMap byteText :=
    textFrom_inner fun place above below => inner place (by omega) (by omega)
  simp only [List.mem_cons, List.not_mem_nil, or_false] at starts
  rw [textFrom, if_pos starts, later, List.flatMap_cons]
  rfl

/-- The hyphens stand before the bytes that start a group and between the groups of digits. -/
theorem display_eq_text (uuid : Uuid) : uuid.display = uuid.text := by
  apply String.toList_inj.mp
  obtain ⟨bytes, size⟩ := uuid
  rw [toList_text, display, String.toList_ofList]
  show textFrom 0 bytes = hyphenated (bytes.flatMap byteText)
  obtain ⟨first, second, third, fourth, fifth, ⟨one, two, three, four, five⟩, rfl⟩ :=
    exists_groups 4 2 2 2 6 size
  have opening : textFrom 0 first = first.flatMap byteText :=
    textFrom_inner fun place _ below => by grind
  have group (index : Nat) (bytes : List UInt8) (starts : index ∈ [4, 6, 8, 10])
      (size : bytes.length = 2 ∨ index = 10 ∧ bytes.length = 6) :
      textFrom index bytes = '-' :: bytes.flatMap byteText :=
    textFrom_group starts (by omega) fun place above below => by grind
  have at4 := group 4 second (by decide) (.inl two)
  have at6 := group 6 third (by decide) (.inl three)
  have at8 := group 8 fourth (by decide) (.inl four)
  have at10 := group 10 fifth (by decide) (.inr ⟨rfl, five⟩)
  have digits {bytes : List UInt8} {size : Nat} (length : bytes.length = size) :
      (bytes.flatMap byteText).length = 2 * size := by
    rw [length_flatMap_byteText, length]
  simp only [textFrom_append, one, two, three, four, opening, Nat.reduceAdd, at4, at6, at8, at10,
    List.flatMap_append, List.cons_append]
  exact (hyphenated_groups (digits one) (digits two) (digits three) (digits four)).symm

end Display

/-! ### The forms that are read -/

theorem toLower_hex : ∀ n < 16, (hex n).toLower = hex n := by decide

theorem mem_digits {uuid : Uuid} {c : Char} (member : c ∈ uuid.digits) : ∃ n < 16, c = hex n := by
  obtain ⟨byte, _, written⟩ := List.mem_flatMap.mp member
  have size := byte.toNat_lt
  simp only [byteText, List.mem_cons, List.not_mem_nil, or_false] at written
  rcases written with rfl | rfl
  · exact ⟨_, by omega, rfl⟩
  · exact ⟨_, by omega, rfl⟩

theorem map_toLower_digits (uuid : Uuid) : uuid.digits.map Char.toLower = uuid.digits := by
  have unchanged : ∀ c ∈ uuid.digits, c.toLower = id c := by
    intro c member
    obtain ⟨n, small, rfl⟩ := mem_digits member
    exact toLower_hex n small
  exact (List.map_congr_left unchanged).trans (List.map_id _)

/-- Without its hyphens the text of an identifier is its digits. -/
theorem filter_text (uuid : Uuid) : uuid.text.toList.filter (· != '-') = uuid.digits := by
  have dashless : ∀ c ∈ uuid.digits, (c != '-') = true := by
    have other : ∀ n < 16, (hex n != '-') = true := by decide
    intro c member
    obtain ⟨n, small, rfl⟩ := mem_digits member
    exact other n small
  obtain ⟨first, second, third, fourth, fifth, ⟨one, two, three, four, _⟩, parted⟩ :=
    exists_groups 8 4 4 4 12 uuid.length_digits
  have kept := List.filter_eq_self.mpr dashless
  rw [parted] at kept
  rw [toList_text, parted, hyphenated_groups one two three four]
  simpa [List.filter_append] using kept

/-- A text is one of the four forms of an identifier, in letters of any case. -/
inductive Spells (uuid : Uuid) : List Char → Prop
  | simple {text : List Char} (alike : AlikeInCase text (uuid.text.toList.filter (· != '-'))) :
    Spells uuid text
  | hyphenated {text : List Char} (alike : AlikeInCase text uuid.text.toList) : Spells uuid text
  | braced {text : List Char} (alike : AlikeInCase text uuid.text.toList) :
    Spells uuid ('{' :: (text ++ ['}']))
  | named {scheme text : List Char} (known : AlikeInCase scheme "urn:uuid:".toList)
    (alike : AlikeInCase text uuid.text.toList) : Spells uuid (scheme ++ text)

theorem ofBytes?_eq_some {bytes : List UInt8} {uuid : Uuid} :
    ofBytes? bytes = some uuid ↔ bytes = uuid.bytes := by
  obtain ⟨own, size⟩ := uuid
  unfold ofBytes?
  constructor
  · intro found
    split at found
    · cases found
      rfl
    · cases found
  · rintro rfl
    rw [dif_pos size]

theorem bind_ofBytes?_eq_some {bytes : Option (List UInt8)} {uuid : Uuid} :
    bytes.bind ofBytes? = some uuid ↔ bytes = some uuid.bytes := by
  simp [Option.bind_eq_some_iff, ofBytes?_eq_some]

/-- Digits are read as an identifier exactly when they are its digits in some case. -/
theorem bytes?_eq_bytes {text : List Char} {uuid : Uuid} :
    bytes? text = some uuid.bytes ↔ AlikeInCase text (uuid.text.toList.filter (· != '-')) := by
  rw [bytes?_eq_some, AlikeInCase, filter_text, map_toLower_digits]
  rfl

theorem withoutHyphens?_map_toLower (text : List Char) :
    withoutHyphens? (text.map Char.toLower) =
      (withoutHyphens? text).map (List.map Char.toLower) := by
  have dash (place : Nat) :
      (text.map Char.toLower)[place]? = some '-' ↔ text[place]? = some '-' := by
    have plain (c : Char) : c.toLower = '-' ↔ c = '-' := Text.toLower_eq_iff rfl
    simp [Option.map_eq_some_iff, plain]
  unfold withoutHyphens?
  simp only [dash, List.length_map]
  split <;> simp

/-- A text with hyphens is read as an identifier exactly when it is its text in some case. -/
theorem hyphenated_eq_bytes {text : List Char} {uuid : Uuid} :
    (withoutHyphens? text).bind bytes? = some uuid.bytes ↔ AlikeInCase text uuid.text.toList := by
  have small : uuid.text.toList.map Char.toLower = hyphenated uuid.digits := by
    rw [toList_text, map_toLower_hyphenated, map_toLower_digits]
  rw [AlikeInCase, small, Option.bind_eq_some_iff]
  constructor
  · rintro ⟨digits, parted, read⟩
    obtain ⟨_, rfl⟩ := withoutHyphens?_eq_some.mp parted
    rw [map_toLower_hyphenated, bytes?_eq_some.mp read]
    rfl
  · intro alike
    have parted : withoutHyphens? (text.map Char.toLower) = some uuid.digits :=
      withoutHyphens?_eq_some.mpr ⟨uuid.length_digits, alike.symm⟩
    rw [withoutHyphens?_map_toLower, Option.map_eq_some_iff] at parted
    obtain ⟨digits, found, same⟩ := parted
    exact ⟨digits, found, bytes?_eq_some.mpr same⟩

theorem length_text (uuid : Uuid) : uuid.text.toList.length = 36 := by
  have parted := withoutHyphens?_eq_some.mpr ⟨uuid.length_digits, uuid.toList_text.symm⟩
  unfold withoutHyphens? at parted
  split at parted
  next shape => exact shape.1
  next => cases parted

theorem length_of_alike {text : List Char} {uuid : Uuid}
    (alike : AlikeInCase text uuid.text.toList) : text.length = 36 := by
  have lengths := congrArg List.length alike
  rwa [List.length_map, List.length_map, length_text] at lengths

/-- Behind its wrapping a text is the hyphenated text of the identifier. -/
theorem unwrapped_alike_iff {text : List Char} {uuid : Uuid} (long : text.length ≠ 32) :
    AlikeInCase (unwrapped text) uuid.text.toList ↔ uuid.Spells text := by
  constructor
  · intro alike
    unfold unwrapped at alike
    dsimp only at alike
    split at alike
    next wrapped =>
      obtain ⟨length, first, last⟩ := wrapped
      obtain ⟨front, rfl⟩ := List.getLast?_eq_some_iff.mp last
      cases front with
      | nil => cases length
      | cons c inner =>
        obtain rfl : c = '{' := Option.some.inj first
        have inside : inner.length = 36 := by simpa using length
        rw [List.cons_append, List.drop_one, List.tail_cons, List.take_left' inside] at alike
        exact .braced alike
    next =>
      split at alike
      next wrapped =>
        have whole : text.take 9 ++ text.drop 9 = text := List.take_append_drop 9 text
        rw [← whole]
        exact .named wrapped.2 alike
      next => exact .hyphenated alike
  · intro spells
    cases spells with
    | simple alike =>
      have lengths := congrArg List.length alike
      rw [List.length_map, List.length_map, filter_text, length_digits] at lengths
      exact absurd lengths long
    | hyphenated alike =>
      have length := length_of_alike alike
      simpa [unwrapped, length] using alike
    | braced alike =>
      have length := length_of_alike alike
      have last (text : List Char) : ('{' :: text ++ ['}']).getLast? = some '}' :=
        List.getLast?_concat
      simp only [List.cons_append] at last
      simpa [unwrapped, length, last] using alike
    | @named scheme text known alike =>
      have length := length_of_alike alike
      have nine : scheme.length = 9 := by
        have lengths := congrArg List.length known
        rwa [List.length_map, List.length_map] at lengths
      have total : (scheme ++ text).length = 45 := by rw [List.length_append, nine, length]
      have small : scheme.map Char.toLower = "urn:uuid:".toList := known
      unfold unwrapped
      rw [if_neg (by simp [total]), List.take_left' nine, List.drop_left' nine,
        if_pos ⟨total, small⟩]
      exact alike

/-- The texts that are read as an identifier are its forms. -/
theorem read?_eq_some {text : List Char} {uuid : Uuid} :
    read? text = some uuid ↔ uuid.Spells text := by
  by_cases short : text.length = 32
  · have read : read? text = (bytes? text).bind ofBytes? := by simp [read?, short]
    rw [read, bind_ofBytes?_eq_some, bytes?_eq_bytes]
    constructor
    · exact .simple
    · intro spells
      -- The other forms are longer.
      cases spells with
      | simple alike => exact alike
      | hyphenated alike => exact absurd (length_of_alike alike) (by omega)
      | braced alike =>
        have length := length_of_alike alike
        simp [length] at short
      | named _ alike =>
        have length := length_of_alike alike
        simp [length] at short
  · have read : read? text = ((withoutHyphens? (unwrapped text)).bind bytes?).bind ofBytes? := by
      simp [read?, short, Option.bind_assoc]
    rw [read, bind_ofBytes?_eq_some, hyphenated_eq_bytes, unwrapped_alike_iff short]

theorem Spells.visible {uuid : Uuid} {text : List Char} (spells : uuid.Spells text) :
    ∀ c ∈ text, Text.isBlank c = false := by
  have digits : ∀ c ∈ uuid.digits, Text.isBlank c = false := by
    have all : ∀ n < 16, Text.isBlank (hex n) = false := by decide
    intro c member
    obtain ⟨n, small, rfl⟩ := mem_digits member
    exact all n small
  have whole : ∀ c ∈ uuid.text.toList, Text.isBlank c = false := by
    intro c member
    by_cases dash : c = '-'
    · rw [dash]
      decide
    · exact digits c (uuid.filter_text ▸ List.mem_filter.mpr ⟨member, by simpa using dash⟩)
  cases spells with
  | simple alike => exact alike.visible fun c member => whole c (List.mem_filter.mp member).1
  | hyphenated alike => exact alike.visible whole
  | braced alike =>
    intro c member
    rcases List.mem_cons.mp member with rfl | later
    · decide
    rcases List.mem_append.mp later with inner | last
    · exact alike.visible whole c inner
    · rw [List.mem_singleton.mp last]
      decide
  | named known alike =>
    have scheme : ∀ c ∈ "urn:uuid:".toList, Text.isBlank c = false := by
      have all : "urn:uuid:".toList.all (!Text.isBlank ·) = true := by decide
      simpa using List.all_eq_true.mp all
    intro c member
    rcases List.mem_append.mp member with named | inner
    · exact known.visible scheme c named
    · exact alike.visible whole c inner

end Uuid

/-! ### Main result -/

/-- A literal for a field of identifiers is converted to an identifier exactly when its text is, but
for the blanks around it, one of the forms of the identifier. -/
theorem FieldType.coerce_eq_uuid {type : FieldType} {field : String} {literal : Literal}
    {uuid : Uuid} :
    type.coerce field literal = .ok (.uuid uuid) ↔
      type.scalar? = some .uuid ∧ uuid.Spells (Text.trim literal.text.toList) := by
  rw [coerce_eq_ok, ← Uuid.read?_eq_some]
  constructor
  · rintro (⟨inner, scalar, read⟩ | ⟨_, _, _, _, impossible⟩)
    · have identifiers : inner = .uuid := by
        have held := ScalarType.holds_of_read? read
        cases inner <;> first | rfl | cases held
      subst identifiers
      obtain ⟨found, text, same⟩ := Option.map_eq_some_iff.mp read
      cases same
      exact ⟨scalar, text⟩
    · cases impossible
  · rintro ⟨scalar, read⟩
    exact .inl ⟨.uuid, scalar, by rw [ScalarType.read?, read]; rfl⟩

/-- The two texts of an identifier are one. Each of its forms, between any blanks, is converted to
it; and whatever text is converted to it is one of these forms, so that its own text is converted
to it as well. -/
theorem identifiers_survive_texts :
    (∀ uuid : Uuid, (Value.uuid uuid).text = uuid.text) ∧
    (∀ (uuid : Uuid) (before text behind : List Char) (type : FieldType) (field : String),
      uuid.Spells text → (∀ c ∈ before, Text.isBlank c = true) →
      (∀ c ∈ behind, Text.isBlank c = true) → type.scalar? = some .uuid →
        type.coerce field (.string (String.ofList (before ++ text ++ behind))) =
          .ok (.uuid uuid)) ∧
    ∀ (type : FieldType) (field : String) (literal : Literal) (uuid : Uuid),
      type.coerce field literal = .ok (.uuid uuid) →
        uuid.Spells (Text.trim literal.text.toList) ∧
          type.coerce field (.string uuid.text) = .ok (.uuid uuid) := by
  refine ⟨Uuid.display_eq_text, ?_, ?_⟩
  · intro uuid before text behind type field spells blank blank' scalar
    apply FieldType.coerce_eq_uuid.mpr
    rw [Literal.text, String.toList_ofList, Text.trim_surrounded blank blank' spells.visible]
    exact ⟨scalar, spells⟩
  · intro type field literal uuid converted
    obtain ⟨scalar, spells⟩ := FieldType.coerce_eq_uuid.mp converted
    have own : uuid.Spells uuid.text.toList := .hyphenated rfl
    refine ⟨spells, FieldType.coerce_eq_uuid.mpr ⟨scalar, ?_⟩⟩
    rw [Literal.text, Text.trim_of_visible own.visible]
    exact own

namespace Sample

/-- An identifier with a letter in both halves of a byte. -/
def badge : Uuid where
  bytes :=
    [0x67, 0xe5, 0x50, 0x44, 0x10, 0xb1, 0x42, 0x6f, 0x92, 0x47, 0xbb, 0x68, 0x0e, 0x5f, 0xe0, 0xc8]
  size_eq := rfl

/-- The digits in mixed case between blanks, one of them no ASCII character. -/
theorem badge_survives :
    badge.Spells "67E5504410B1426f9247BB680E5FE0c8".toList ∧
      (FieldType.optionalScalar .uuid).coerce "badge"
        (.string "	 67E5504410B1426f9247BB680E5FE0c8　") = .ok (.uuid badge) ∧
      (FieldType.optionalScalar .uuid).coerce "badge" (.string badge.text) = .ok (.uuid badge) := by
  have alike : Text.AlikeInCase "67E5504410B1426f9247BB680E5FE0c8".toList
      (badge.text.toList.filter (· != '-')) := by
    unfold Text.AlikeInCase
    decide
  have before : ∀ c ∈ ['\t', ' '], Text.isBlank c = true :=
    List.all_eq_true.mp (show ['\t', ' '].all Text.isBlank = true by decide)
  have behind : ∀ c ∈ ['\u3000'], Text.isBlank c = true :=
    List.all_eq_true.mp (show ['\u3000'].all Text.isBlank = true by decide)
  obtain ⟨_, forms, texts⟩ := identifiers_survive_texts
  have read := forms badge ['\t', ' '] _ ['\u3000'] (.optionalScalar .uuid) "badge" (.simple alike)
    before behind rfl
  exact ⟨.simple alike, read, (texts _ "badge" _ badge read).2⟩

end Sample

end RecordQuery
