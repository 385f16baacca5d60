import RecordQuery.Json.Record
import RecordQuery.Proofs.Entries

/-!
# Parts of documents

A record lists its parts, of which some may be absent, and its fields are these parts in whatever
order their entries are written. A property of documents holds everywhere in a document when all
its parts have it, however deep they stand.
-/

namespace RecordQuery.Json

variable {α : Type}

/-! ### Records -/

/-- The entries of an object whose parts may be absent. -/
def present (parts : List (String × Option α)) : List (String × α) :=
  parts.filterMap fun (key, part) => part.map fun value => (key, value)

theorem keys_present_sublist (parts : List (String × Option α)) :
    ((present parts).map (·.1)).Sublist (parts.map (·.1)) := by
  induction parts with
  | nil => exact .slnil
  | cons first rest ih =>
    obtain ⟨key, part⟩ := first
    cases part with
    | none => exact ih.cons _
    | some value => exact ih.cons_cons _

theorem mem_present {parts : List (String × Option α)} {key : String} {value : α} :
    (key, value) ∈ present parts ↔ (key, some value) ∈ parts := by
  simp [present, Prod.ext_iff]

theorem entryAt?_present {parts : List (String × Option α)} {key : String} {part : Option α}
    (distinct : (parts.map (·.1)).Nodup) (member : (key, part) ∈ parts) :
    entryAt? key (present parts) = part := by
  have distinct_present : ((present parts).map (·.1)).Nodup :=
    distinct.sublist (keys_present_sublist parts)
  cases part with
  | some value => exact entryAt?_of_mem distinct_present (mem_present.mpr member)
  | none =>
    -- What were found at the key would be a second part there.
    rw [Option.eq_none_iff_forall_not_mem]
    intro value found
    have other : (key, some value) ∈ parts := mem_present.mp (mem_of_entryAt? found)
    have same := List.inj_on_of_nodup_map distinct member other rfl
    cases same

theorem map_present {β : Type} (f : α → β) (parts : List (String × Option α)) :
    (present parts).map (fun entry => (entry.1, f entry.2)) =
      present (parts.map fun part => (part.1, part.2.map f)) := by
  induction parts with
  | nil => rfl
  | cons first rest ih =>
    obtain ⟨key, part⟩ := first
    cases part with
    | none => exact ih
    | some value => exact congrArg _ ih

/-- The fields of an object are its parts, in whatever order its entries are written. -/
theorem fieldsByName?_of_perm {parts : List (String × Option α)} {entries : List (String × α)}
    (distinct : (parts.map (·.1)).Nodup) (perm : entries.Perm (present parts)) :
    fieldsByName? (parts.map (·.1)) entries = some (parts.map (·.2)) := by
  have distinct_entries : (entries.map (·.1)).Nodup :=
    (perm.map _).nodup_iff.mpr (distinct.sublist (keys_present_sublist parts))
  have once (name : String) : occurrences name entries ≤ 1 := by
    have counted : occurrences name entries = (entries.map (·.1)).count name := by
      rw [List.count, List.countP_map]
      rfl
    rw [counted]
    exact List.nodup_iff_count_le_one.mp distinct_entries name
  have found : parts.map (fun part => entryAt? part.1 entries) = parts.map (·.2) := by
    apply List.map_congr_left
    intro part member
    rw [entryAt?_eq_of_perm distinct_entries perm]
    exact entryAt?_present distinct member
  unfold fieldsByName?
  rw [if_neg, List.map_map]
  · exact congrArg some found
  · simp [once]

/-! ### Items -/

/-- Items that are read back one by one are read back as a list. -/
theorem mapM_map_eq_some {β : Type} {read : β → Option α} {write : α → β} {values : List α}
    (back : ∀ value ∈ values, read (write value) = some value) :
    (values.map write).mapM read = some values := by
  induction values with
  | nil => rfl
  | cons value rest ih =>
    have others := ih fun value member => back value (List.mem_cons_of_mem _ member)
    rw [List.map_cons, List.mapM_cons, back value List.mem_cons_self, others]
    rfl

theorem list?_map {read : Json → Option α} {write : α → Json} {values : List α}
    (back : ∀ value ∈ values, read (write value) = some value) :
    list? read (.list (values.map write)) = some values :=
  mapM_map_eq_some back

/-! ### Properties of all parts -/

/-- The documents that stand directly in a document. -/
def inside : Json → List Json
  | .list items => items
  | .object entries => entries.map (·.2)
  | _ => []

/-- The document has the property, and so have all parts of it. -/
inductive Everywhere (property : Json → Prop) : Json → Prop
  | node {document : Json} (here : property document)
    (parts : ∀ part ∈ document.inside, Everywhere property part) : Everywhere property document

namespace Everywhere

variable {property : Json → Prop}

theorem here {document : Json} (holds : document.Everywhere property) : property document := by
  cases holds
  assumption

theorem leaf {document : Json} (here : property document) (alone : document.inside = []) :
    document.Everywhere property := by
  refine .node here ?_
  rw [alone]
  exact fun part member => absurd member List.not_mem_nil

theorem list_map {write : α → Json} {values : List α} (here : property (.list (values.map write)))
    (each : ∀ value ∈ values, (write value).Everywhere property) :
    (Json.list (values.map write)).Everywhere property := by
  refine .node here fun part member => ?_
  obtain ⟨value, listed, rfl⟩ := List.mem_map.mp member
  exact each value listed

theorem object {entries : List (String × Json)} (here : property (.object entries))
    (each : ∀ entry ∈ entries, entry.2.Everywhere property) :
    (Json.object entries).Everywhere property := by
  refine .node here fun part member => ?_
  obtain ⟨entry, listed, rfl⟩ := List.mem_map.mp member
  exact each entry listed

theorem object_present {parts : List (String × Option Json)}
    (here : property (.object (present parts)))
    (each : ∀ part ∈ parts, ∀ value, part.2 = some value → value.Everywhere property) :
    (Json.object (present parts)).Everywhere property :=
  object here fun entry listed => each _ (mem_present.mp listed) entry.2 rfl

theorem orNull {write : α → Json} {part : Option α} (null : property .null)
    (each : ∀ value, part = some value → (write value).Everywhere property) :
    (Json.orNull (part.map write)).Everywhere property := by
  cases part with
  | none => exact leaf null rfl
  | some value => exact each value rfl

/-- What an optional part is written as. -/
theorem of_map {write : α → Json} {part : Option α} {document : Json}
    (written : part.map write = some document)
    (each : ∀ value, part = some value → (write value).Everywhere property) :
    document.Everywhere property := by
  obtain ⟨value, there, rfl⟩ := Option.map_eq_some_iff.mp written
  exact each value there

end Everywhere

/-! ### Parts at any depth -/

theorem sizeOf_lt_of_mem_inside {document part : Json} (direct : part ∈ document.inside) :
    sizeOf part < sizeOf document := by
  cases document with
  | list items =>
    have less : sizeOf part < sizeOf items := List.sizeOf_lt_of_mem direct
    rw [list.sizeOf_spec]
    omega
  | object entries =>
    obtain ⟨⟨key, value⟩, listed, rfl⟩ := List.mem_map.mp direct
    have less : sizeOf (key, value) < sizeOf entries := List.sizeOf_lt_of_mem listed
    rw [Prod.mk.sizeOf_spec] at less
    rw [object.sizeOf_spec]
    dsimp only
    omega
  | _ => cases direct

/-- What passes from the parts of a document to the document holds of every document. -/
theorem of_inside {motive : Json → Prop}
    (step : ∀ document, (∀ part ∈ document.inside, motive part) → motive document)
    (document : Json) : motive document := by
  induction held : sizeOf document using Nat.strongRecOn generalizing document with
  | _ size smaller =>
    refine step document fun part direct => ?_
    have less : sizeOf part < size := held ▸ sizeOf_lt_of_mem_inside direct
    exact smaller _ less part rfl

/-- The part is the document or stands in it, however deep. -/
inductive PartOf (part : Json) : Json → Prop
  | itself : PartOf part part
  | deeper {document child : Json} (direct : child ∈ document.inside) (below : PartOf part child) :
    PartOf part document

theorem everywhere_iff {property : Json → Prop} {document : Json} :
    document.Everywhere property ↔
      property document ∧ ∀ part ∈ document.inside, part.Everywhere property := by
  constructor
  · rintro ⟨here, parts⟩
    exact ⟨here, parts⟩
  · rintro ⟨here, parts⟩
    exact .node here parts

theorem everywhere_iff_parts {property : Json → Prop} {document : Json} :
    document.Everywhere property ↔ ∀ part, part.PartOf document → property part := by
  constructor
  · intro holds
    induction holds with
    | node here _ ih =>
      intro part within
      cases within with
      | itself => exact here
      | deeper direct below => exact ih _ direct part below
  · intro every
    induction document using of_inside with
    | step document ih =>
      refine .node (every document .itself) fun child direct => ih child direct ?_
      exact fun part below => every part (.deeper direct below)

end RecordQuery.Json
