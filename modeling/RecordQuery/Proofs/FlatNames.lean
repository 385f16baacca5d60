import RecordQuery.Proofs.Declared

/-!
# Flat names

The joined names of a path tell it apart from other paths as long as no name holds the separator.
They also tell which paths lie under it.
-/

namespace RecordQuery.Path

theorem names_ne_nil (path : Path) : path.names ≠ [] := by
  simp [names, Chain.toList]

/-- Two lists of pieces are joined with a separator between them. -/
theorem intercalate_append {α : Type} {separator : List α} {left right : List (List α)}
    (filled : left ≠ []) (further : right ≠ []) :
    separator.intercalate (left ++ right) =
      separator.intercalate left ++ separator ++ separator.intercalate right := by
  induction left with
  | nil => exact absurd rfl filled
  | cons first rest ih =>
    cases rest with
    | nil =>
      rw [List.cons_append, List.nil_append, List.intercalate_cons_of_ne_nil further]
      simp
    | cons second more =>
      have tail := ih (List.cons_ne_nil second more)
      rw [List.cons_append, List.cons_append, List.intercalate_cons_cons, ← List.cons_append, tail,
        List.intercalate_cons_cons]
      simp

section Separator

variable {separator : String} {mark : Char}

/-- Names that do not hold the separator are the pieces of the joined text. -/
theorem splitOn_join (single : separator.toList = [mark]) {path : Path}
    (clean : ∀ name ∈ path.names, mark ∉ name.toList) :
    (path.join separator).toList.splitOn mark = path.names.map String.toList := by
  rw [join, String.toList_intercalate, single]
  -- A name may be empty, but no path is without names, so an empty text is one empty name.
  apply List.splitOn_intercalate
  · intro piece member
    obtain ⟨name, here, rfl⟩ := List.mem_map.mp member
    exact clean name here
  · simpa using path.names_ne_nil

/-- Names that do not hold the separator are found again in the joined text. -/
theorem names_eq_of_join_eq (single : separator.toList = [mark])
    {left right : Path} (leftClean : ∀ name ∈ left.names, mark ∉ name.toList)
    (rightClean : ∀ name ∈ right.names, mark ∉ name.toList)
    (same : left.join separator = right.join separator) : left.names = right.names := by
  have texts : left.names.map String.toList = right.names.map String.toList := by
    rw [← splitOn_join single leftClean, ← splitOn_join single rightClean, same]
  exact (List.map_inj_right fun _ _ => String.toList_inj.mp).mp texts

/-- A text that goes on behind joined names and a separator joins these names and further ones. -/
theorem isUnder_of_join_prefix (single : separator.toList = [mark]) {path above : Path}
    (clean : ∀ name ∈ path.names, mark ∉ name.toList)
    (aboveClean : ∀ name ∈ above.names, mark ∉ name.toList)
    (begun : (above.join separator).toList ++ [mark] <+: (path.join separator).toList) :
    path.isUnder above = true := by
  obtain ⟨behind, text⟩ := begun
  have pieces : path.names.map String.toList =
      above.names.map String.toList ++ behind.splitOn mark := by
    rw [← splitOn_join single clean, ← splitOn_join single aboveClean, ← text, List.append_assoc]
    exact List.splitOnP_append_cons _ _ (beq_self_eq_true mark)
  have texts : above.names.map String.toList <+: path.names.map String.toList :=
    ⟨_, pieces.symm⟩
  rw [isUnder, List.isPrefixOf_iff_prefix]
  exact (List.prefix_map_iff_of_injective fun _ _ => String.toList_inj.mp).mp texts

/-- The joined names of a path under another one are those of the other, or go on behind them. -/
theorem join_of_isUnder {path above : Path} (under : path.isUnder above = true) :
    path.join separator = above.join separator ∨
      (above.join separator).toList ++ separator.toList <+: (path.join separator).toList := by
  rw [isUnder, List.isPrefixOf_iff_prefix] at under
  obtain ⟨further, names⟩ := under
  unfold join
  rw [← names]
  by_cases ends : further = []
  · left
    rw [ends, List.append_nil]
  · right
    have filled : above.names.map String.toList ≠ [] := by simpa using above.names_ne_nil
    have filled_further : further.map String.toList ≠ [] := by simpa using ends
    rw [String.toList_intercalate, String.toList_intercalate, List.map_append,
      intercalate_append filled filled_further]
    exact List.prefix_append _ _

end Separator

end RecordQuery.Path

namespace RecordQuery.Schema

/-- Paths declared from one entity have the same names when their joined names are the same and no
declared name holds the separator. -/
theorem Declares.names_eq_of_join_eq {schema : Schema} {entity : Entity} {separator : String}
    {mark : Char} (single : separator.toList = [mark])
    (clean : schema.EveryName fun name => mark ∉ name.toList)
    (own : ∀ field ∈ entity.fields, mark ∉ field.name.toList) {left right : Path}
    (leftDeclared : schema.Declares entity left) (rightDeclared : schema.Declares entity right)
    (same : left.join separator = right.join separator) : left.names = right.names := by
  have leftClean := leftDeclared.names_of_own clean own
  have rightClean := rightDeclared.names_of_own clean own
  exact Path.names_eq_of_join_eq single leftClean rightClean same

end RecordQuery.Schema
