/-!
# Dictionaries

A finite map from text to values, kept as entries in ascending order of their keys. Text is
compared by code point. Putting an entry replaces the one with an equal key.
-/

namespace RecordQuery

/-- Puts an entry in its place among entries in ascending order of keys, over an equal key. -/
def putEntry {α : Type} (key : String) (value : α) : List (String × α) → List (String × α)
  | [] => [(key, value)]
  | (other, held) :: rest =>
    if key < other then (key, value) :: (other, held) :: rest
    else if key = other then (key, value) :: rest
    else (other, held) :: putEntry key value rest

/-- Puts entries one after the other, so that the last of equal keys stays. -/
def putEntries {α : Type} (entries : List (String × α)) : List (String × α) :=
  entries.foldl (fun held (key, value) => putEntry key value held) []

def entryAt? {α : Type} (key : String) (entries : List (String × α)) : Option α :=
  (entries.find? (·.1 == key)).map (·.2)

/-- Are the keys in ascending order, without repetition? -/
def Ascending {α : Type} (entries : List (String × α)) : Prop :=
  entries.Pairwise fun left right => left.1 < right.1

theorem mem_putEntry {α : Type} {key : String} {value : α} {entries : List (String × α)}
    {entry : String × α} (member : entry ∈ putEntry key value entries) :
    entry = (key, value) ∨ entry ∈ entries := by
  induction entries with
  | nil => simpa [putEntry] using member
  | cons head rest ih =>
    unfold putEntry at member
    split at member
    · simpa using member
    · split at member
      · rcases List.mem_cons.mp member with same | later
        · exact .inl same
        · exact .inr (List.mem_cons_of_mem _ later)
      · rcases List.mem_cons.mp member with same | later
        · exact .inr (same ▸ List.mem_cons_self)
        · exact (ih later).imp_right (List.mem_cons_of_mem _)

theorem ascending_putEntry {α : Type} (key : String) (value : α) {entries : List (String × α)}
    (ascending : Ascending entries) : Ascending (putEntry key value entries) := by
  induction entries with
  | nil => simp [putEntry, Ascending]
  | cons head rest ih =>
    obtain ⟨other, held⟩ := head
    obtain ⟨above, tail⟩ := List.pairwise_cons.mp ascending
    unfold putEntry
    split
    next less =>
      refine List.pairwise_cons.mpr ⟨fun entry member => ?_, ascending⟩
      rcases List.mem_cons.mp member with same | later
      · exact same ▸ less
      · exact String.lt_trans less (above entry later)
    next notLess =>
      split
      next equal => exact List.pairwise_cons.mpr ⟨by simpa [equal] using above, tail⟩
      next different =>
        have greater : other < key :=
          Std.lt_of_le_of_ne (String.not_lt.mp notLess) (Ne.symm different)
        refine List.pairwise_cons.mpr ⟨fun entry member => ?_, ih tail⟩
        rcases mem_putEntry member with same | later
        · exact same ▸ greater
        · exact above entry later

/-- A finite map from text to values. -/
structure Dictionary (α : Type) where
  entries : List (String × α)
  ascending : Ascending entries

namespace Dictionary

variable {α : Type}

instance [DecidableEq α] : DecidableEq (Dictionary α) := fun left right =>
  decidable_of_iff (left.entries = right.entries)
    ⟨fun same => by cases left; cases right; simp_all, fun same => same ▸ rfl⟩

def empty : Dictionary α := ⟨[], List.Pairwise.nil⟩

instance : Inhabited (Dictionary α) := ⟨empty⟩

/-- Puts an entry, over one with an equal key. -/
def put (key : String) (value : α) (dictionary : Dictionary α) : Dictionary α :=
  ⟨putEntry key value dictionary.entries, ascending_putEntry key value dictionary.ascending⟩

/-- The map of some entries, the last of equal keys winning. -/
def ofList (entries : List (String × α)) : Dictionary α :=
  entries.foldl (fun dictionary (key, value) => dictionary.put key value) empty

def keys (dictionary : Dictionary α) : List String := dictionary.entries.map (·.1)

def values (dictionary : Dictionary α) : List α := dictionary.entries.map (·.2)

def get? (key : String) (dictionary : Dictionary α) : Option α := entryAt? key dictionary.entries

end Dictionary

end RecordQuery
