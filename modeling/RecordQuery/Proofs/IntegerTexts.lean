import Mathlib.Data.List.Induction
import RecordQuery.Number.Notation
import RecordQuery.Number.Reading
import RecordQuery.Proofs.WrittenText
import RecordQuery.Text.Blank
import RecordQuery.Timestamp

/-!
# Texts of integers

An integer is written with digits, behind a minus or nothing. Such a text is read as that integer,
it has no blanks that reading would trim, and it is the text of no date.
-/

namespace RecordQuery

/-! ### Digits -/

namespace Digits

theorem value_lt {c : Char} (digit : c.isDigit = true) : value c < 10 := by
  simp only [Char.isDigit, Bool.and_eq_true, decide_eq_true_eq] at digit
  exact Nat.lt_succ_of_le (Nat.sub_le_of_le_add digit.2)

theorem digitChar_value {c : Char} (digit : c.isDigit = true) : (value c).digitChar = c := by
  have chars : ∀ n < 10, n.digitChar = Char.ofNat (n + 48) := by decide
  have small := value_lt digit
  simp only [Char.isDigit, ge_iff_le, Bool.and_eq_true, decide_eq_true_eq] at digit
  have code : value c + 48 = c.toNat := Nat.sub_add_cancel digit.1
  rw [chars (value c) small, code, Char.ofNat_toNat]

/-- Zeros behind the digits raise the number by powers of ten. -/
theorem natural_append_zeros (digits : List Char) (count : Nat) :
    natural 0 (digits ++ List.replicate count '0') = Nat.pow 10 count * natural 0 digits :=
  List.foldl_append.trans Nat.ofDigitChars_replicate_zero

/-- Digits without a superfluous zero are those of their number. -/
theorem decimal_natural {digits : List Char} (filled : digits ≠ [])
    (all : ∀ c ∈ digits, c.isDigit = true) (plain : digits.head? = some '0' → digits = ['0']) :
    decimal (natural 0 digits) = digits := by
  induction digits using List.reverseRecOn with
  | nil => exact absurd rfl filled
  | append_singleton before c ih =>
    have digit : c.isDigit = true := all c (by simp)
    have last : decimal (value c) = [c] := by
      rw [decimal_of_lt (value_lt digit), digitChar_value digit]
    have value_eq : natural 0 (before ++ [c]) = 10 * natural 0 before + value c := by
      simp [natural]
    by_cases alone : before = []
    · subst alone
      rw [value_eq]
      simpa [natural] using last
    · -- The digits before the last one have no superfluous zero either, and they are not zero.
      have head : (before ++ [c]).head? = before.head? := List.head?_append_of_ne_nil _ alone
      have leading : before.head? ≠ some '0' := by
        intro zero
        have single := congrArg List.length (plain (head.trans zero))
        rw [List.length_append, List.length_singleton] at single
        exact alone (List.length_eq_zero_iff.mp (Nat.succ.inj single))
      have digits := ih alone (fun d member => all d (List.mem_append_left _ member))
        fun zero => absurd zero leading
      have positive : 0 < natural 0 before := by
        rw [Nat.pos_iff_ne_zero]
        intro zero
        rw [zero] at digits
        exact leading (digits ▸ rfl)
      have joined := Nat.toDigits_append_toDigits (by decide) positive (value_lt digit)
      calc decimal (natural 0 (before ++ [c]))
          = decimal (10 * natural 0 before + value c) := by rw [value_eq]
        _ = decimal (natural 0 before) ++ decimal (value c) := joined.symm
        _ = before ++ [c] := by rw [digits, last]

end Digits

namespace Numeral

theorem natural?_eq_some {digits : List Char} {n : Nat} :
    natural? digits = some n ↔
      digits ≠ [] ∧ (∀ c ∈ digits, c.isDigit = true) ∧ Digits.natural 0 digits = n := by
  simp [natural?, and_assoc]

/-- A digit is no sign. -/
theorem sign_of_isDigit {c : Char} (digit : c.isDigit = true) (rest : List Char) :
    sign (c :: rest) = (false, c :: rest) := by
  unfold sign
  split
  next same => cases same; cases digit
  next same => cases same; cases digit
  next => rfl

/-- The text is the digits of the integer, behind a minus or nothing. -/
def Writes (text : List Char) (n : Int) : Prop :=
  ∃ digits m, natural? digits = some m ∧
    (text = digits ∧ n = m ∨ text = '-' :: digits ∧ n = -(m : Int))

variable {text : List Char} {n : Int}

theorem Writes.integer? (writes : Writes text n) : integer? text = some n := by
  obtain ⟨digits, m, read, ⟨rfl, rfl⟩ | ⟨rfl, rfl⟩⟩ := writes
  · obtain ⟨filled, all, _⟩ := natural?_eq_some.mp read
    obtain ⟨c, more, rfl⟩ := List.exists_cons_of_ne_nil filled
    have unsigned := sign_of_isDigit (all c List.mem_cons_self) more
    simp [Numeral.integer?, unsigned, read]
  · simp [Numeral.integer?, sign, read]

theorem Writes.numeric (writes : Writes text n) : ∀ c ∈ text, c = '-' ∨ c.isDigit = true := by
  obtain ⟨digits, m, read, ⟨rfl, rfl⟩ | ⟨rfl, rfl⟩⟩ := writes
  · exact fun c member => .inr ((natural?_eq_some.mp read).2.1 c member)
  · intro c member
    rcases List.mem_cons.mp member with rfl | later
    · exact .inl rfl
    · exact .inr ((natural?_eq_some.mp read).2.1 c later)

theorem writes_integer (n : Int) : Writes (Digits.integer n) n := by
  have digits : natural? (Digits.decimal n.natAbs) = some n.natAbs :=
    natural?_eq_some.mpr ⟨Digits.decimal_ne_nil _, fun _ => Digits.isDigit_of_mem_decimal,
      Digits.natural_decimal _⟩
  unfold Digits.integer
  split
  · exact ⟨_, _, digits, .inr ⟨rfl, by omega⟩⟩
  · exact ⟨_, _, digits, .inl ⟨rfl, by omega⟩⟩

end Numeral

/-! ### Neither blanks nor dates -/

/-- Neither a minus nor a digit is blank. -/
theorem Text.not_isBlank_of_numeric {c : Char} (numeric : c = '-' ∨ c.isDigit = true) :
    isBlank c = false := by
  rcases numeric with rfl | digit
  · decide
  · have visible : ∀ code < 58, 48 ≤ code → blankRanges.contains code = false := by decide
    have code : 48 ≤ c.toNat ∧ c.toNat < 58 := by
      simp only [Char.isDigit, ge_iff_le, Bool.and_eq_true, decide_eq_true_eq] at digit
      exact ⟨digit.1, Nat.lt_succ_of_le digit.2⟩
    exact visible c.toNat code.2 code.1

theorem Text.trimStart_of_visible {text : List Char} (visible : ∀ c ∈ text, isBlank c = false) :
    trimStart text = text := by
  cases text with
  | nil => rfl
  | cons c rest => exact trimStart_of_not_isBlank c rest (visible c List.mem_cons_self)

theorem Text.trim_of_visible {text : List Char} (visible : ∀ c ∈ text, isBlank c = false) :
    trim text = text := by
  rw [trim, trimStart_of_visible visible, trimStart_of_visible, List.reverse_reverse]
  exact fun c member => visible c (List.mem_reverse.mp member)

/-- Only the ends of a text matter for trimming. -/
theorem Text.trim_of_ends {first last : Char} {inner : List Char}
    (starts : isBlank first = false) (ends : isBlank last = false) :
    trim (first :: inner ++ [last]) = first :: inner ++ [last] := by
  have reversed : (first :: inner ++ [last]).reverse = last :: (first :: inner).reverse := by
    rw [List.reverse_append, List.reverse_singleton, List.singleton_append]
  rw [trim, List.cons_append, trimStart_of_not_isBlank _ _ starts, ← List.cons_append, reversed,
    trimStart_of_not_isBlank _ _ ends, ← reversed, List.reverse_reverse]

namespace Timestamp

/-- Behind the year of a date stands a dash, behind the first digits of an integer none does. -/
theorem readDate?_of_writes {text : List Char} {n : Int} (writes : Numeral.Writes text n) :
    readDate? text = none := by
  unfold readDate?
  cases found : readNatural? 4 text with
  | none => rfl
  | some parts =>
    simp only [readNatural?, Option.ite_none_right_eq_some, Option.some.injEq] at found
    obtain ⟨⟨width, year⟩, rfl⟩ := found
    have unmarked : readMark? ['-'] (text.drop 4) = none := by
      obtain ⟨digits, m, read, ⟨rfl, rfl⟩ | ⟨rfl, rfl⟩⟩ := writes
      · obtain ⟨_, all, _⟩ := Numeral.natural?_eq_some.mp read
        cases rest : text.drop 4 with
        | nil => rfl
        | cons c more =>
          have digit := all c (List.mem_of_mem_drop (rest ▸ List.mem_cons_self))
          have other : c ≠ '-' := by
            rintro rfl
            cases digit
          simp [readMark?, other]
      · -- A minus is no digit of a year.
        simp at year
    simp [unmarked]

theorem read?_of_writes {text : List Char} {n : Int} (writes : Numeral.Writes text n) :
    read? text = none := by
  simp [read?, readDate?_of_writes writes]

end Timestamp

end RecordQuery
