import RecordQuery.Proofs.Truth
import RecordQuery.Sql.Dialect

/-!
# Wildcards

How the patterns of `LIKE` and `GLOB` are read, and which texts they match. The pattern that is made
for a text matches exactly the texts that it stands in where it has to.
-/

namespace RecordQuery.Sql

/-! ### Classes of characters -/

/-- A class of characters: those inside of some ranges, or those outside of them. -/
structure CharClass where
  negated : Bool
  ranges : List (Char × Char)
  deriving DecidableEq, Repr

namespace CharClass

def holds (members : CharClass) (c : Char) : Bool :=
  members.ranges.any (fun (low, high) => low ≤ c && c ≤ high) != members.negated

/-- The class of a single character. -/
def only (c : Char) : CharClass := ⟨false, [(c, c)]⟩

/-- The class of every character. -/
def every : CharClass := ⟨true, []⟩

theorem holds_only (c d : Char) : (only c).holds d = (c == d) := by
  have same : (c ≤ d ∧ d ≤ c) ↔ c = d := ⟨fun both => Char.le_antisymm both.1 both.2, by simp_all⟩
  rw [Bool.eq_iff_iff]
  simp [holds, only, same]

/-- The ranges up to the closing bracket, and how many characters they take with it. A hyphen
between two members makes a range of them, unless the one before it already ends a range. -/
def readRanges : (low : Option Char) → List Char → Option (List (Char × Char) × Nat)
  | _, [] => none
  | _, ']' :: _ => some ([], 1)
  | some low, '-' :: high :: rest =>
    -- Before the closing bracket a hyphen is a member like any other.
    if high = ']' then some ([('-', '-')], 2)
    else (readRanges none rest).map fun (ranges, taken) => ((low, high) :: ranges, taken + 2)
  | _, c :: rest =>
    (readRanges (some c) rest).map fun (ranges, taken) => ((c, c) :: ranges, taken + 1)

/-- The ranges of a class, whose first member may be a closing bracket. -/
def readMembers : List Char → Option (List (Char × Char) × Nat)
  | ']' :: rest => (readRanges none rest).map fun (ranges, taken) => ((']', ']') :: ranges, taken + 1)
  | body => readRanges none body

/-- The class behind an opening bracket, and how many characters it takes. A circumflex at its start
negates it. -/
def read : List Char → Option (CharClass × Nat)
  | '^' :: rest => (readMembers rest).map fun (ranges, taken) => (⟨true, ranges⟩, taken + 1)
  | body => (readMembers body).map fun (ranges, taken) => (⟨false, ranges⟩, taken)

/-- A class of a single character is read as such, unless the character has a meaning at the start
of a class. -/
theorem read_only {c : Char} (notNegation : c ≠ '^') (notClosing : c ≠ ']') (rest : List Char) :
    read (c :: ']' :: rest) = some (only c, 2) := by
  have ranges : readRanges none (c :: ']' :: rest) = some ([(c, c)], 2) := by
    simp [readRanges]
  simp [read, readMembers, notNegation, notClosing, ranges, only]

end CharClass

/-! ### Parts of patterns -/

/-- A part of a pattern: one character of a class, or any text. -/
inductive Wildcard where
  | oneOf (members : CharClass)
  | anyMany
  deriving DecidableEq, Repr

namespace Wildcard

/-- The part that matches a character alone. -/
def exactly (c : Char) : Wildcard := .oneOf (.only c)

/-- The part that matches any one character. -/
def anyOne : Wildcard := .oneOf .every

/-- Does the pattern match the whole text? -/
def accepts : List Wildcard → List Char → Bool
  | [], text => text.isEmpty
  | .oneOf _ :: _, [] => false
  | .oneOf members :: rest, c :: text => members.holds c && accepts rest text
  | .anyMany :: rest, text => text.tails.any (accepts rest)

theorem accepts_exactly_append {literal : List Char} {rest : List Wildcard} {text : List Char} :
    accepts (literal.map .exactly ++ rest) text = true ↔
      ∃ tail, literal ++ tail = text ∧ accepts rest tail = true := by
  induction literal generalizing text with
  | nil => simp
  | cons c literal ih =>
    cases text with
    | nil => simp [exactly, accepts]
    | cons d text =>
      simp only [List.map_cons, List.cons_append, exactly, accepts, CharClass.holds_only,
        Bool.and_eq_true, beq_iff_eq, ih, List.cons.injEq, and_assoc, exists_and_left]

theorem accepts_anyMany {rest : List Wildcard} {text : List Char} :
    accepts (.anyMany :: rest) text = true ↔ ∃ tail, tail <:+ text ∧ accepts rest tail = true := by
  simp only [accepts, List.any_eq_true, List.mem_tails]

theorem accepts_trailing {text : List Char} : accepts [.anyMany] text = true := by
  refine accepts_anyMany.mpr ⟨[], List.nil_suffix, rfl⟩

/-! ### Reading patterns -/

/-- The parts of a pattern of `LIKE`. A character behind the escape character stands for itself. -/
def ofLike? (escape : Char) : List Char → Option (List Wildcard)
  | [] => some []
  | c :: rest =>
    if c = escape then
      match rest with
      | [] => none
      | escaped :: rest => (ofLike? escape rest).map (.exactly escaped :: ·)
    else if c = '%' then (ofLike? escape rest).map (.anyMany :: ·)
    else if c = '_' then (ofLike? escape rest).map (.anyOne :: ·)
    else (ofLike? escape rest).map (.exactly c :: ·)

/-- The parts of a pattern of `GLOB` whose first `skip` characters belong to a class already read.
There are none when a class is not closed. -/
def ofGlobFrom? : (skip : Nat) → List Char → Option (List Wildcard)
  | _, [] => some []
  | skip + 1, _ :: rest => ofGlobFrom? skip rest
  | 0, '*' :: rest => (ofGlobFrom? 0 rest).map (.anyMany :: ·)
  | 0, '?' :: rest => (ofGlobFrom? 0 rest).map (.anyOne :: ·)
  | 0, '[' :: rest =>
    match CharClass.read rest with
    | none => none
    | some (members, taken) => (ofGlobFrom? taken rest).map (.oneOf members :: ·)
  | 0, c :: rest => (ofGlobFrom? 0 rest).map (.exactly c :: ·)

/-- The parts of a pattern of `GLOB`. -/
def ofGlob? (pattern : List Char) : Option (List Wildcard) := ofGlobFrom? 0 pattern

theorem ofLike?_nil (escape : Char) : ofLike? escape [] = some [] := rfl

theorem ofLike?_anyMany (rest : List Char) :
    ofLike? '\\' ('%' :: rest) = (ofLike? '\\' rest).map (.anyMany :: ·) := by
  rw [ofLike?.eq_def]
  rfl

theorem ofLike?_exactly {c : Char} (notMany : c ≠ '%') (notOne : c ≠ '_') (notEscape : c ≠ '\\')
    (rest : List Char) :
    ofLike? '\\' (c :: rest) = (ofLike? '\\' rest).map (.exactly c :: ·) := by
  rw [ofLike?.eq_def]
  simp only [notMany, notOne, notEscape, if_false]

theorem ofGlob?_nil : ofGlob? [] = some [] := rfl

theorem ofGlob?_anyMany (rest : List Char) :
    ofGlob? ('*' :: rest) = (ofGlob? rest).map (.anyMany :: ·) := rfl

theorem ofGlob?_exactly {c : Char} (notMany : c ≠ '*') (notOne : c ≠ '?') (notClass : c ≠ '[')
    (rest : List Char) : ofGlob? (c :: rest) = (ofGlob? rest).map (.exactly c :: ·) := by
  -- The three facts are what the last equation of the reader asks for.
  simp [ofGlob?, ofGlobFrom?]

/-- A class of a single character is skipped when it has been read. -/
theorem ofGlob?_only {c : Char} (notNegation : c ≠ '^') (notClosing : c ≠ ']')
    (rest : List Char) :
    ofGlob? ('[' :: c :: ']' :: rest) = (ofGlob? rest).map (.exactly c :: ·) := by
  simp [ofGlob?, ofGlobFrom?, CharClass.read_only notNegation notClosing, exactly]

theorem ofLike?_escapeLike (literal ending : List Char) :
    ofLike? '\\' (escapeLike literal ++ ending) =
      (ofLike? '\\' ending).map (literal.map .exactly ++ ·) := by
  induction literal with
  | nil => simp [escapeLike]
  | cons c literal ih =>
    unfold escapeLike at ih ⊢
    by_cases special : c = '%' ∨ c = '_' ∨ c = '\\'
    · -- The character is read back behind its backslash.
      simp [special, ofLike?, ih, Function.comp_def]
    · obtain ⟨notMany, notOne, notEscape⟩ : c ≠ '%' ∧ c ≠ '_' ∧ c ≠ '\\' := by
        simpa only [not_or] using special
      simp [notMany, notOne, notEscape, ofLike?_exactly, ih, Function.comp_def]

theorem ofGlob?_escapeGlob (literal ending : List Char) :
    ofGlob? (escapeGlob literal ++ ending) = (ofGlob? ending).map (literal.map .exactly ++ ·) := by
  induction literal with
  | nil => simp [escapeGlob]
  | cons c literal ih =>
    unfold escapeGlob at ih ⊢
    by_cases special : c = '*' ∨ c = '?' ∨ c = '['
    · -- The character is read back from its class.
      obtain ⟨notNegation, notClosing⟩ : c ≠ '^' ∧ c ≠ ']' := by
        rcases special with rfl | rfl | rfl <;> decide
      simp [special, notNegation, notClosing, ofGlob?_only, ih, Function.comp_def]
    · obtain ⟨notMany, notOne, notClass⟩ : c ≠ '*' ∧ c ≠ '?' ∧ c ≠ '[' := by
        simpa only [not_or] using special
      simp [notMany, notOne, notClass, ofGlob?_exactly, ih, Function.comp_def]

end Wildcard

/-! ### Patterns for texts -/

namespace PatternKind

open Wildcard (accepts accepts_exactly_append accepts_anyMany accepts_trailing)

/-- The pattern of the texts in which a text stands where it has to. -/
def wildcards : PatternKind → List Char → List Wildcard
  | .anywhere, wanted => .anyMany :: (wanted.map .exactly ++ [.anyMany])
  | .atStart, wanted => wanted.map .exactly ++ [.anyMany]
  | .atEnd, wanted => .anyMany :: (wanted.map .exactly ++ [])

theorem accepts_wildcards (kind : PatternKind) (wanted text : List Char) :
    accepts (kind.wildcards wanted) text = kind.holds wanted text := by
  rw [Bool.eq_iff_iff]
  cases kind with
  | anywhere =>
    simp only [wildcards, holds, accepts_anyMany, accepts_exactly_append, accepts_trailing,
      and_true, decide_eq_true_eq]
    constructor
    · rintro ⟨_, ⟨before, rfl⟩, behind, rfl⟩
      exact ⟨before, behind, List.append_assoc ..⟩
    · rintro ⟨before, behind, rfl⟩
      exact ⟨wanted ++ behind, ⟨before, (List.append_assoc ..).symm⟩, behind, rfl⟩
  | atStart =>
    simp only [wildcards, holds, accepts_exactly_append, accepts_trailing, and_true,
      List.isPrefixOf_iff_prefix]
    exact Iff.rfl
  | atEnd =>
    simp only [wildcards, holds, accepts_anyMany, accepts_exactly_append,
      List.isSuffixOf_iff_suffix]
    constructor
    · rintro ⟨_, suffix, tail, rfl, ends⟩
      have nothing_behind : tail = [] := by simpa [accepts] using ends
      rwa [nothing_behind, List.append_nil] at suffix
    · intro suffix
      exact ⟨wanted, suffix, [], List.append_nil _, rfl⟩

/-- What reads a mark as any text, and an escaped text as that text, reads the pattern that is made
for a text. -/
theorem reads_wrap {reading : List Char → Option (List Wildcard)} {mark : Char}
    {escaped : List Char → List Char} (reads_nil : reading [] = some [])
    (reads_mark : ∀ rest, reading (mark :: rest) = (reading rest).map (.anyMany :: ·))
    (reads_escaped : ∀ literal ending, reading (escaped literal ++ ending) =
      (reading ending).map (literal.map .exactly ++ ·))
    (kind : PatternKind) (wanted : List Char) :
    reading (kind.wrap mark (escaped wanted)) = some (kind.wildcards wanted) := by
  have bare := reads_escaped wanted []
  rw [List.append_nil] at bare
  cases kind <;> simp [wrap, wildcards, reads_nil, reads_mark, reads_escaped, bare]

theorem ofLike?_wrap (kind : PatternKind) (wanted : List Char) :
    Wildcard.ofLike? '\\' (kind.wrap '%' (escapeLike wanted)) = some (kind.wildcards wanted) :=
  reads_wrap (Wildcard.ofLike?_nil _) Wildcard.ofLike?_anyMany Wildcard.ofLike?_escapeLike kind
    wanted

theorem ofGlob?_wrap (kind : PatternKind) (wanted : List Char) :
    Wildcard.ofGlob? (kind.wrap '*' (escapeGlob wanted)) = some (kind.wildcards wanted) :=
  reads_wrap Wildcard.ofGlob?_nil Wildcard.ofGlob?_anyMany Wildcard.ofGlob?_escapeGlob kind wanted

end PatternKind

end RecordQuery.Sql
