/-!
# Text in pieces

A text is cut at the first occurrence of a delimiter or at each one, from the left and without
overlap. An empty delimiter cuts nothing, so there is always at least one piece.
-/

namespace RecordQuery.Text

/-- The text before the first delimiter and the text behind it. -/
def cutFirst? (delimiter : List Char) : List Char → Option (List Char × List Char)
  | [] => none
  | c :: rest =>
    if delimiter.isEmpty then none
    else if delimiter.isPrefixOf (c :: rest) then
      some ([], rest.drop (delimiter.length - 1))
    else
      (cutFirst? delimiter rest).map fun (before, behind) => (c :: before, behind)

theorem length_behind_lt {delimiter text before behind : List Char}
    (cut : cutFirst? delimiter text = some (before, behind)) : behind.length < text.length := by
  induction text generalizing before with
  | nil => simp [cutFirst?] at cut
  | cons c rest ih =>
    simp only [cutFirst?, Option.ite_none_left_eq_some] at cut
    obtain ⟨_, cut⟩ := cut
    split at cut
    · simp only [Option.some.injEq, Prod.mk.injEq] at cut
      obtain ⟨_, rfl⟩ := cut
      simp only [List.length_drop, List.length_cons]
      omega
    · simp only [Option.map_eq_some_iff, Prod.mk.injEq] at cut
      obtain ⟨⟨_, _⟩, later, _, rfl⟩ := cut
      have shorter := ih later
      rw [List.length_cons]
      omega

/-- Puts a character in front of the first piece. -/
def extendFirst (c : Char) : List (List Char) → List (List Char)
  | [] => [[c]]
  | piece :: more => (c :: piece) :: more

/-- The pieces of a text whose first `skip` characters belong to a delimiter already met. -/
def piecesAfter (delimiter : List Char) : (skip : Nat) → List Char → List (List Char)
  | _, [] => [[]]
  | skip + 1, _ :: rest => piecesAfter delimiter skip rest
  | 0, c :: rest =>
    if delimiter.isPrefixOf (c :: rest) then
      [] :: piecesAfter delimiter (delimiter.length - 1) rest
    else
      extendFirst c (piecesAfter delimiter 0 rest)

def pieces (delimiter text : List Char) : List (List Char) :=
  if delimiter.isEmpty then [text] else piecesAfter delimiter 0 text

end RecordQuery.Text
