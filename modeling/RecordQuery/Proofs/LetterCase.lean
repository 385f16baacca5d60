import RecordQuery.Text.LetterCase
import RecordQuery.Text.Pieces

/-!
# Texts that differ in case

Folding the case of ASCII letters changes no other character. So it moves no delimiter without
letters, and texts that differ in case alone are cut at the same places.
-/

namespace RecordQuery.Text

/-- The texts differ at most in the case of ASCII letters. -/
def AlikeInCase (text other : List Char) : Prop :=
  text.map Char.toLower = other.map Char.toLower

theorem alikeInCase_of_sameName {left right : String} (same : sameName left right = true) :
    AlikeInCase left.toList right.toList :=
  eq_of_beq same

theorem sameName_of_alikeInCase {text other : List Char} (alike : AlikeInCase text other) :
    sameName (String.ofList text) (String.ofList other) = true := by
  unfold sameName
  rw [String.toList_ofList, String.toList_ofList, beq_iff_eq]
  exact alike

theorem sameName_comm (left right : String) : sameName left right = sameName right left :=
  BEq.comm

theorem sameName_trans {first second third : String} (same : sameName first second = true)
    (same' : sameName second third = true) : sameName first third = true := by
  simp only [sameName, beq_iff_eq] at same same' ⊢
  exact same.trans same'

/-- The codes of the ASCII letters. -/
theorem isAlpha_iff {c : Char} :
    c.isAlpha = true ↔ 65 ≤ c.toNat ∧ c.toNat ≤ 90 ∨ 97 ≤ c.toNat ∧ c.toNat ≤ 122 := by
  -- The letters are told by the characters that bound them; these are their codes.
  change (decide (65 ≤ c.val ∧ c.val ≤ 90) || (decide (97 ≤ c.val) && decide (c.val ≤ 122))) =
    true ↔ _
  simp [UInt32.le_iff_toNat_le, ← Char.toNat_val]

/-- Capitals are folded to letters 32 codes behind them, all else to itself. -/
theorem toNat_toLower (c : Char) :
    c.toLower.toNat = if 65 ≤ c.toNat ∧ c.toNat ≤ 90 then c.toNat + 32 else c.toNat := by
  unfold Char.toLower
  split
  next capital =>
    have within : 65 ≤ c.toNat ∧ c.toNat ≤ 90 := by
      simpa [UInt32.le_iff_toNat_le] using capital
    have code : (c.val + 32).toNat = c.toNat + 32 := by
      rw [UInt32.toNat_add, show UInt32.toNat 32 = 32 from rfl, Char.toNat_val]
      omega
    rw [if_pos within]
    exact code
  next other =>
    have without : ¬(65 ≤ c.toNat ∧ c.toNat ≤ 90) := by
      simpa [UInt32.le_iff_toNat_le] using other
    rw [if_neg without]

/-- A character that is no letter is folded from itself alone. -/
theorem toLower_eq_iff {c other : Char} (plain : c.isAlpha = false) :
    other.toLower = c ↔ other = c := by
  have without := mt isAlpha_iff.mpr (Bool.eq_false_iff.mp plain)
  have folded := toNat_toLower other
  constructor
  · intro same
    rw [same] at folded
    apply Char.toNat_inj.mp
    split at folded <;> omega
  · rintro rfl
    apply Char.toNat_inj.mp
    rw [folded, if_neg (by omega)]

theorem not_mem_of_sameName {left right : String} (same : sameName left right = true) {c : Char}
    (plain : c.isAlpha = false) (clean : c ∉ right.toList) : c ∉ left.toList := by
  intro member
  have folded : c ∈ left.toList.map Char.toLower :=
    List.mem_map.mpr ⟨c, member, (toLower_eq_iff plain).mpr rfl⟩
  rw [eq_of_beq same] at folded
  obtain ⟨other, here, small⟩ := List.mem_map.mp folded
  exact clean ((toLower_eq_iff plain).mp small ▸ here)

/-! ### Cutting texts that differ in case -/

section Delimiter

variable {delimiter : List Char}

/-- A text without letters leads the same texts when their case is folded. -/
theorem prefix_map_toLower (caseless : ∀ c ∈ delimiter, c.isAlpha = false) {text : List Char} :
    delimiter <+: text.map Char.toLower ↔ delimiter <+: text := by
  induction delimiter generalizing text with
  | nil => simp
  | cons mark marks ih =>
    have plain : mark.isAlpha = false := caseless mark List.mem_cons_self
    have later := @ih fun c member => caseless c (List.mem_cons_of_mem _ member)
    cases text with
    | nil => simp
    | cons c rest =>
      rw [List.map_cons, List.cons_prefix_cons, List.cons_prefix_cons, later, eq_comm,
        toLower_eq_iff plain, eq_comm]

/-- Folding the case of a text moves no delimiter. -/
theorem cutFirst?_map_toLower (caseless : ∀ c ∈ delimiter, c.isAlpha = false) (text : List Char) :
    cutFirst? delimiter (text.map Char.toLower) =
      (cutFirst? delimiter text).map
        (Prod.map (List.map Char.toLower) (List.map Char.toLower)) := by
  induction text with
  | nil => rfl
  | cons c rest ih =>
    by_cases empty : delimiter = []
    · simp [cutFirst?, empty]
    · have leads : delimiter.isPrefixOf ((c :: rest).map Char.toLower) =
          delimiter.isPrefixOf (c :: rest) := by
        rw [Bool.eq_iff_iff, List.isPrefixOf_iff_prefix, List.isPrefixOf_iff_prefix]
        exact prefix_map_toLower caseless
      rw [List.map_cons] at leads
      by_cases first : delimiter.isPrefixOf (c :: rest) = true
      · simp [cutFirst?, empty, leads, first, List.map_drop]
      · simp only [List.map_cons, cutFirst?, List.isEmpty_iff, empty, leads, first, ih]
        cases cutFirst? delimiter rest <;> rfl

variable {text other : List Char}

theorem AlikeInCase.cutFirst?_eq_none (caseless : ∀ c ∈ delimiter, c.isAlpha = false)
    (alike : AlikeInCase text other) (absent : cutFirst? delimiter text = none) :
    cutFirst? delimiter other = none := by
  have folded := cutFirst?_map_toLower caseless other
  rw [← alike, cutFirst?_map_toLower caseless, absent] at folded
  simpa using folded.symm

theorem AlikeInCase.cutFirst?_eq_some (caseless : ∀ c ∈ delimiter, c.isAlpha = false)
    (alike : AlikeInCase text other) {before behind : List Char}
    (cut : cutFirst? delimiter text = some (before, behind)) :
    ∃ before' behind', cutFirst? delimiter other = some (before', behind') ∧
      AlikeInCase before before' ∧ AlikeInCase behind behind' := by
  have folded := cutFirst?_map_toLower caseless other
  rw [← alike, cutFirst?_map_toLower caseless, cut] at folded
  obtain ⟨⟨before', behind'⟩, cut', same⟩ := Option.map_eq_some_iff.mp folded.symm
  obtain ⟨befores, behinds⟩ := Prod.mk.inj same
  exact ⟨before', behind', cut', befores.symm, behinds.symm⟩

end Delimiter

end RecordQuery.Text
