import RecordQuery.Proofs.Wildcards
import RecordQuery.Sql.Relational

/-!
# Patterns that match literally

A pattern comparison looks for a text as it is. Each store has its own language of patterns: `LIKE`
with an escape character, `GLOB` with classes of characters, regular expressions with anchors. What
is made of a text in each of them matches where the text stands and nowhere else.
-/

namespace RecordQuery

open FilterDocument (escape pattern?)

/-- Does the wanted text stand in the other one where the comparison looks for it? -/
def Comparison.Finds : Comparison → (wanted text : List Char) → Prop
  | .contains, wanted, text => wanted <:+: text
  | .startsWith, wanted, text => wanted <+: text
  | .endsWith, wanted, text => wanted <:+ text
  | _, _, _ => False

namespace Sql

/-! ### `LIKE` and `GLOB` -/

/-- Does a text match a pattern of `LIKE`? Nothing matches a pattern that ends with the escape
character. -/
def likeMatches (escape : Char) (pattern text : List Char) : Bool :=
  (Wildcard.ofLike? escape pattern).any (Wildcard.accepts · text)

/-- Does a text match a pattern of `GLOB`? Nothing matches a pattern with a class that is not
closed. -/
def globMatches (pattern text : List Char) : Bool :=
  (Wildcard.ofGlob? pattern).any (Wildcard.accepts · text)

-- A class of two ranges, a negated class with a bracket in it, and a class that is not closed.
example : globMatches "[a-cx]?".toList "b!".toList = true := by decide
example : globMatches "*[^]-]".toList "a-b".toList = true := by decide
example : globMatches "[a".toList "a".toList = false := by decide

/-! ### Dialects -/

/-- Does a text match a pattern that the dialect is given as a parameter? -/
def Dialect.matchesPattern (dialect : Dialect) (pattern text : String) : Bool :=
  match dialect with
  | .postgres => likeMatches '\\' pattern.toList text.toList
  | .sqlite => globMatches pattern.toList text.toList
  | .mysql => likeMatches '\\' pattern.toList text.toList

theorem Dialect.matchesPattern_patternText (dialect : Dialect) (kind : PatternKind)
    (wanted text : String) :
    dialect.matchesPattern (dialect.patternText kind wanted) text =
      kind.holds wanted.toList text.toList := by
  cases dialect with
  | postgres | mysql =>
    simp [matchesPattern, patternText, likeMatches, PatternKind.ofLike?_wrap,
      PatternKind.accepts_wildcards]
  | sqlite =>
    simp [matchesPattern, patternText, globMatches, PatternKind.ofGlob?_wrap,
      PatternKind.accepts_wildcards]

end Sql

/-! ### Regular expressions -/

/-- What searches texts for regular expressions. -/
structure RegexEngine where
  /-- Does the expression match the piece of a text that stands between two others? -/
  fits : (regex before piece behind : List Char) → Prop

namespace RegexEngine

/-- The expression matches some piece of the text. -/
def Finds (engine : RegexEngine) (regex text : List Char) : Prop :=
  ∃ before piece behind, before ++ piece ++ behind = text ∧ engine.fits regex before piece behind

/-- An escaped text or one of the two anchors. -/
inductive Simple : List Char → Prop
  | start : Simple ['^']
  | finish : Simple ['$']
  | literal (text : List Char) : Simple (escape text)

/-- What is known of the expressions that patterns are made of. -/
structure Documented (engine : RegexEngine) : Prop where
  literal : ∀ text before piece behind,
    engine.fits (escape text) before piece behind ↔ piece = text
  start : ∀ before piece behind,
    engine.fits ['^'] before piece behind ↔ piece = [] ∧ before = []
  finish : ∀ before piece behind,
    engine.fits ['$'] before piece behind ↔ piece = [] ∧ behind = []
  sequence : ∀ first second, Simple first → Simple second → ∀ before piece behind,
    engine.fits (first ++ second) before piece behind ↔
      ∃ left right, left ++ right = piece ∧ engine.fits first before left (right ++ behind) ∧
        engine.fits second (before ++ left) right behind

variable {engine : RegexEngine}

/-- Behind the anchor of the start a text is matched at the start alone. -/
theorem fits_start (documented : engine.Documented) (wanted before piece behind : List Char) :
    engine.fits ('^' :: escape wanted) before piece behind ↔ before = [] ∧ piece = wanted := by
  have sequence := documented.sequence _ _ .start (.literal wanted) before piece behind
  simp only [documented.start, documented.literal, List.singleton_append] at sequence
  rw [sequence]
  constructor
  · rintro ⟨_, _, rfl, ⟨rfl, rfl⟩, rfl⟩
    exact ⟨rfl, rfl⟩
  · rintro ⟨rfl, rfl⟩
    exact ⟨[], piece, rfl, ⟨rfl, rfl⟩, rfl⟩

/-- Before the anchor of the end a text is matched at the end alone. -/
theorem fits_finish (documented : engine.Documented) (wanted before piece behind : List Char) :
    engine.fits (escape wanted ++ ['$']) before piece behind ↔ behind = [] ∧ piece = wanted := by
  rw [documented.sequence _ _ (.literal wanted) .finish]
  simp only [documented.finish, documented.literal]
  constructor
  · rintro ⟨_, _, rfl, rfl, rfl, rfl⟩
    exact ⟨rfl, List.append_nil _⟩
  · rintro ⟨rfl, rfl⟩
    exact ⟨piece, [], List.append_nil _, rfl, rfl, rfl⟩

/-- The expression of a pattern is found where the text stands. -/
theorem finds_pattern (documented : engine.Documented) {comparison : Comparison} {wanted : String}
    {regex : String} (made : pattern? comparison wanted = some regex) (text : List Char) :
    engine.Finds regex.toList text ↔ comparison.Finds wanted.toList text := by
  unfold pattern? at made
  cases comparison with
  | contains =>
    cases made
    simp only [Finds, String.toList_ofList, documented.literal, Comparison.Finds]
    constructor
    · rintro ⟨before, _, behind, whole, rfl⟩
      exact ⟨before, behind, whole⟩
    · rintro ⟨before, behind, whole⟩
      exact ⟨before, _, behind, whole, rfl⟩
  | startsWith =>
    cases made
    simp only [Finds, String.toList_ofList, fits_start documented, Comparison.Finds]
    constructor
    · rintro ⟨_, _, behind, whole, rfl, rfl⟩
      exact ⟨behind, whole⟩
    · rintro ⟨behind, whole⟩
      exact ⟨[], _, behind, whole, rfl, rfl⟩
  | endsWith =>
    cases made
    simp only [Finds, String.toList_ofList, fits_finish documented, Comparison.Finds]
    constructor
    · rintro ⟨before, _, _, whole, rfl, rfl⟩
      exact ⟨before, by rwa [List.append_nil] at whole⟩
    · rintro ⟨before, whole⟩
      exact ⟨before, _, [], by rwa [List.append_nil], rfl, rfl⟩
  | _ => cases made

/-! ### An engine -/

/-- A part of an expression without operators. -/
inductive Atom where
  | exactly (c : Char)
  | start
  | finish
  deriving DecidableEq, Repr

/-- The parts of an expression. A character behind a backslash stands for itself. -/
def atoms : List Char → List Atom
  | [] => []
  | '\\' :: c :: rest => .exactly c :: atoms rest
  | '^' :: rest => .start :: atoms rest
  | '$' :: rest => .finish :: atoms rest
  | c :: rest => .exactly c :: atoms rest

/-- Do the parts match the piece of a text that stands between two others? -/
def AtomsFit : List Atom → (before piece behind : List Char) → Prop
  | [], _, piece, _ => piece = []
  | .exactly _ :: _, _, [], _ => False
  | .exactly c :: rest, before, d :: piece, behind =>
    c = d ∧ AtomsFit rest (before ++ [d]) piece behind
  | .start :: rest, before, piece, behind => before = [] ∧ AtomsFit rest before piece behind
  | .finish :: rest, before, piece, behind =>
    piece ++ behind = [] ∧ AtomsFit rest before piece behind

/-- The engine of expressions without operators. -/
def simple : RegexEngine := ⟨fun regex => AtomsFit (atoms regex)⟩

theorem atoms_escape_append (text rest : List Char) :
    atoms (escape text ++ rest) = text.map .exactly ++ atoms rest := by
  induction text with
  | nil => rfl
  | cons c text ih =>
    unfold escape at ih ⊢
    cases special : FilterDocument.isSpecial c with
    | true => simp [special, atoms, ih]
    | false =>
      -- A character that is not special is neither a backslash nor an anchor.
      have plain : c ≠ '\\' ∧ c ≠ '^' ∧ c ≠ '$' := by
        refine ⟨?_, ?_, ?_⟩ <;> rintro rfl <;> exact absurd special (by decide)
      simp [special, atoms, plain, ih]

theorem atoms_append {first : List Char} (simple : Simple first) (second : List Char) :
    atoms (first ++ second) = atoms first ++ atoms second := by
  cases simple with
  | start => rfl
  | finish => rfl
  | literal text =>
    have alone := atoms_escape_append text []
    rw [List.append_nil] at alone
    rw [atoms_escape_append, alone]
    simp [atoms]

theorem atomsFit_exactly (text before piece behind : List Char) :
    AtomsFit (text.map .exactly) before piece behind ↔ piece = text := by
  induction text generalizing before piece with
  | nil => rfl
  | cons c text ih =>
    cases piece with
    | nil => simp [AtomsFit]
    | cons d piece =>
      simp only [List.map_cons, AtomsFit, ih, List.cons.injEq]
      exact and_congr_left' eq_comm

theorem atomsFit_append (first second : List Atom) (before piece behind : List Char) :
    AtomsFit (first ++ second) before piece behind ↔
      ∃ left right, left ++ right = piece ∧ AtomsFit first before left (right ++ behind) ∧
        AtomsFit second (before ++ left) right behind := by
  induction first generalizing before piece with
  | nil =>
    constructor
    · intro fit
      exact ⟨[], piece, rfl, rfl, by simpa using fit⟩
    · rintro ⟨_, right, rfl, rfl, fit⟩
      simpa using fit
  | cons atom rest ih =>
    cases atom with
    | exactly c =>
      -- The character leads the first of the two pieces, whatever the cut.
      cases piece with
      | nil =>
        constructor
        · exact False.elim
        · rintro ⟨left, right, empty, fit, _⟩
          obtain ⟨rfl, rfl⟩ := List.append_eq_nil_iff.mp empty
          exact fit
      | cons d piece =>
        simp only [List.cons_append, AtomsFit, ih]
        constructor
        · rintro ⟨rfl, left, right, rfl, fit, more⟩
          exact ⟨c :: left, right, rfl, ⟨rfl, fit⟩, by simpa using more⟩
        · rintro ⟨left, right, whole, fit, more⟩
          cases left with
          | nil => exact absurd fit id
          | cons e left =>
            cases whole
            obtain ⟨rfl, fit⟩ := fit
            exact ⟨rfl, left, right, rfl, fit, by simpa using more⟩
    -- An anchor takes nothing and sees the same on its two sides, wherever the piece is cut.
    | start =>
      simp only [List.cons_append, AtomsFit, ih]
      constructor
      · rintro ⟨start, left, right, whole, fit, more⟩
        exact ⟨left, right, whole, ⟨start, fit⟩, more⟩
      · rintro ⟨left, right, whole, ⟨start, fit⟩, more⟩
        exact ⟨start, left, right, whole, fit, more⟩
    | finish =>
      simp only [List.cons_append, AtomsFit, ih]
      constructor
      · rintro ⟨finish, left, right, rfl, fit, more⟩
        exact ⟨left, right, rfl, ⟨by simpa using finish, fit⟩, more⟩
      · rintro ⟨left, right, rfl, ⟨finish, fit⟩, more⟩
        exact ⟨by simpa using finish, left, right, rfl, fit, more⟩

theorem simple_documented : simple.Documented where
  literal text before piece behind := by
    have alone := atoms_escape_append text []
    rw [List.append_nil] at alone
    change AtomsFit (atoms (escape text)) before piece behind ↔ _
    rw [alone]
    simpa [atoms] using atomsFit_exactly text before piece behind
  start before piece behind := and_comm
  finish before piece behind := by
    change piece ++ behind = [] ∧ piece = [] ↔ _
    rw [List.append_eq_nil_iff]
    tauto
  sequence first second isSimple _ before piece behind := by
    change AtomsFit (atoms (first ++ second)) before piece behind ↔ _
    rw [atoms_append isSimple]
    exact atomsFit_append _ _ before piece behind

end RegexEngine

/-! ### Main result -/

theorem Comparison.finds_contains {wanted text : List Char} :
    Sql.PatternKind.anywhere.holds wanted text = true ↔ Comparison.contains.Finds wanted text :=
  decide_eq_true_iff

theorem Comparison.finds_startsWith {wanted text : List Char} :
    Sql.PatternKind.atStart.holds wanted text = true ↔ Comparison.startsWith.Finds wanted text :=
  List.isPrefixOf_iff_prefix

theorem Comparison.finds_endsWith {wanted text : List Char} :
    Sql.PatternKind.atEnd.holds wanted text = true ↔ Comparison.endsWith.Finds wanted text :=
  List.isSuffixOf_iff_suffix

/-- A comparison with a pattern looks for its text in a column or by a regular expression. What
stands for the text in each dialect and what engines are asked for match where the text stands, and
nowhere else. -/
theorem patterns_match_literally {engine : RegexEngine} (documented : engine.Documented)
    {comparison : Comparison} (pattern : comparison.isPattern = true) (wanted : String) :
    ∃ kind regex,
      (∀ column, Sql.Relational.compare? column comparison (.pattern wanted) =
        some (.pattern column kind wanted)) ∧
      FilterDocument.test? comparison (.pattern wanted) =
        some (Json.single "$regex" (.string regex)) ∧
      ∀ text : String,
        (∀ dialect : Sql.Dialect,
          dialect.matchesPattern (dialect.patternText kind wanted) text = true ↔
            comparison.Finds wanted.toList text.toList) ∧
        (engine.Finds regex.toList text.toList ↔ comparison.Finds wanted.toList text.toList) := by
  have searched {regex : String} (made : pattern? comparison wanted = some regex) (text : String) :=
    RegexEngine.finds_pattern documented made text.toList
  cases comparison with
  | contains =>
    refine ⟨.anywhere, _, fun _ => rfl, rfl, fun text => ⟨fun dialect => ?_, searched rfl text⟩⟩
    rw [dialect.matchesPattern_patternText, Comparison.finds_contains]
  | startsWith =>
    refine ⟨.atStart, _, fun _ => rfl, rfl, fun text => ⟨fun dialect => ?_, searched rfl text⟩⟩
    rw [dialect.matchesPattern_patternText, Comparison.finds_startsWith]
  | endsWith =>
    refine ⟨.atEnd, _, fun _ => rfl, rfl, fun text => ⟨fun dialect => ?_, searched rfl text⟩⟩
    rw [dialect.matchesPattern_patternText, Comparison.finds_endsWith]
  | _ => cases pattern

/-! ### A text of wildcards -/

namespace Sample

/-- A text that ends with characters that every language of patterns gives a meaning. -/
theorem wildcards_found_at_end :
    RegexEngine.simple.Documented ∧ Comparison.endsWith.isPattern = true ∧
      (∀ dialect : Sql.Dialect, dialect.matchesPattern
        (dialect.patternText .atEnd "[^a-]*?%_\\$") "x[^a-]*?%_\\$" = true) ∧
      RegexEngine.simple.Finds "\\[\\^a\\-\\]\\*\\?%_\\\\\\$$".toList "x[^a-]*?%_\\$".toList := by
  have searches : Comparison.endsWith.isPattern = true := rfl
  have stands : Comparison.endsWith.Finds "[^a-]*?%_\\$".toList "x[^a-]*?%_\\$".toList :=
    ⟨['x'], rfl⟩
  obtain ⟨kind, regex, column, test, matching⟩ :=
    patterns_match_literally RegexEngine.simple_documented searches "[^a-]*?%_\\$"
  cases column "c"
  cases test
  exact ⟨RegexEngine.simple_documented, searches,
    fun dialect => ((matching _).1 dialect).mpr stands, (matching _).2.mpr stands⟩

end Sample

end RecordQuery
