import RecordQuery.Schema.Entity

/-!
# Denials

A schema is written by calls that deny, one after the other. A refusal that holds after some of the
calls ought to hold after all further ones. It does until a call lifts it: one that names other
operations while everything is blocked, or one that gives a field a new policy in place of the old.
-/

namespace RecordQuery

/-! ### Runs of calls -/

section Runs

variable {State Call : Type} {step : State → Call → State} {property : State → Prop}

/-- What holds after some of the calls holds after further ones too, whichever they are. -/
def Persists (step : State → Call → State) (property : State → Prop) (start : State)
    (calls : List Call) : Prop :=
  ∀ earlier later rest, calls = earlier ++ later ++ rest →
    property (earlier.foldl step start) → property ((earlier ++ later).foldl step start)

/-- No call of the run ends what held before it. -/
def Spares (step : State → Call → State) (property : State → Prop) (start : State)
    (calls : List Call) : Prop :=
  ∀ earlier call rest, calls = earlier ++ call :: rest →
    property (earlier.foldl step start) → property (step (earlier.foldl step start) call)

/-- What no call of a run ends holds after all of them. -/
theorem Spares.foldl {start : State} {calls : List Call} (spares : Spares step property start calls)
    (holds : property start) : property (calls.foldl step start) := by
  induction calls generalizing start with
  | nil => exact holds
  | cons first others ih =>
    have after_first : property (step start first) := spares [] first others rfl holds
    refine ih (fun earlier call rest split earlier_holds => ?_) after_first
    exact spares (first :: earlier) call rest (congrArg (first :: ·) split) earlier_holds

theorem persists_iff_spares {start : State} {calls : List Call} :
    Persists step property start calls ↔ Spares step property start calls := by
  constructor
  · intro persists earlier call rest split holds
    have after_call := persists earlier [call] rest (by simpa using split) holds
    simpa using after_call
  · intro spares earlier later rest split holds
    rw [List.foldl_append]
    -- Behind the earlier calls the later ones are a run of their own.
    apply Spares.foldl _ holds
    intro earlier' call rest' split' holds'
    have within : calls = (earlier ++ earlier') ++ call :: (rest' ++ rest) := by
      rw [split, split']
      simp
    have after_call := spares (earlier ++ earlier') call (rest' ++ rest) within
    simp only [List.foldl_append] at after_call
    exact after_call holds'

end Runs

/-! ### Operations -/

namespace Operation

/-- Is the operation among those named, by itself or by the broad one that it is a variant of? -/
def isNamed (operations : List Operation) (operation : Operation) : Bool :=
  operations.contains operation || operation.broader?.any operations.contains

theorem isNamed_append (left right : List Operation) (operation : Operation) :
    isNamed (left ++ right) operation = (isNamed left operation || isNamed right operation) := by
  unfold isNamed
  cases operation.broader? with
  | none => simp
  | some broad => simp [Bool.or_assoc, Bool.or_left_comm]

theorem isPermitted_some (denied : List Operation) (operation : Operation) :
    isPermitted (some denied) operation = (!denied.isEmpty && !isNamed denied operation) := by
  unfold isPermitted isNamed
  cases operation.broader? with
  | none => simp
  | some broad => simp [Bool.and_assoc]

end Operation

/-- A call that denies operations of a record type: some of them, or all. -/
inductive Denial where
  | some (operations : List Operation)
  | all
  deriving DecidableEq, Repr

namespace Entity

/-- The record type after a call. -/
def restrict (entity : Entity) : Denial → Entity
  | .some operations => entity.deny operations
  | .all => entity.denyAll

def Refuses (operation : Operation) (entity : Entity) : Prop := entity.permits operation = false

theorem refuses_denyAll (entity : Entity) (operation : Operation) :
    entity.denyAll.Refuses operation := rfl

/-- A call to deny some operations lifts a refusal exactly when everything was blocked before and
the operation is not among the ones it names. -/
theorem refuses_deny_iff {entity : Entity} {operation : Operation} {operations : List Operation}
    (refused : entity.Refuses operation) :
    (entity.deny operations).Refuses operation ↔
      (entity.denied = some [] → operations = [] ∨ Operation.isNamed operations operation) := by
  unfold Refuses permits deny at *
  cases denials : entity.denied with
  | none =>
    -- A record type without a list of denials refuses nothing.
    rw [denials] at refused
    cases refused
  | some denied =>
    rw [denials] at refused
    rw [Option.getD_some, Operation.isPermitted_some, Operation.isNamed_append]
    rw [Operation.isPermitted_some] at refused
    cases denied with
    | nil =>
      have none_named : Operation.isNamed [] operation = false := by
        unfold Operation.isNamed
        cases operation.broader? <;> rfl
      cases operations <;> simp [none_named]
    | cons first others =>
      have named : Operation.isNamed (first :: others) operation = true := by simpa using refused
      simp [named]

end Entity

/-! ### Comparisons -/

namespace Field

/-- A call to deny some comparisons gives the field a policy of its own, which refuses these, or
all of them when it names none. -/
theorem disallows_denyComparisons_iff {field : Field} {comparisons : List Comparison}
    {comparison : Comparison} :
    (field.denyComparisons comparisons).disallows comparison = true ↔
      comparisons = [] ∨ comparison ∈ comparisons := by
  have never_every : OperatorRule.every ∉ comparisons.map OperatorRule.only := by simp
  simp [denyComparisons, withPolicy, disallows, FieldPolicy.disallows, FieldPolicy.deny,
    never_every]

end Field

/-! ### Main result -/

/-- Refusals persist through a run of calls exactly as long as no call lifts one. For a record type
it is a call that denies some operations, and not the refused one, while all are blocked. For a
field it is any call that denies some comparisons, and not the refused one. -/
theorem denials_persist_iff (entity : Entity) (calls : List Denial) (operation : Operation)
    (field : Field) (denials : List (List Comparison)) (comparison : Comparison) :
    (Persists Entity.restrict (Entity.Refuses operation) entity calls ↔
      ∀ earlier operations rest, calls = earlier ++ .some operations :: rest →
        (earlier.foldl Entity.restrict entity).denied = some [] →
          operations = [] ∨ Operation.isNamed operations operation) ∧
    (Persists (fun field comparisons => field.denyComparisons comparisons)
        (fun field => field.disallows comparison = true) field denials ↔
      ∀ earlier comparisons rest, denials = earlier ++ comparisons :: rest →
        (earlier.foldl (fun field comparisons => field.denyComparisons comparisons)
          field).disallows comparison = true →
        comparisons = [] ∨ comparison ∈ comparisons) := by
  rw [persists_iff_spares, persists_iff_spares]
  constructor
  · constructor
    · intro spares earlier operations rest split blocked
      -- What blocks everything refuses the operation, so the call is one that spares it.
      have refused : (earlier.foldl Entity.restrict entity).Refuses operation := by
        unfold Entity.Refuses Entity.permits
        rw [blocked]
        rfl
      have spared := spares earlier (.some operations) rest split refused
      exact (Entity.refuses_deny_iff refused).mp spared blocked
    · intro unlifted earlier call rest split refused
      cases call with
      | some operations =>
        exact (Entity.refuses_deny_iff refused).mpr (unlifted earlier operations rest split)
      | all => exact Entity.refuses_denyAll _ operation
  · unfold Spares
    simp only [Field.disallows_denyComparisons_iff]

/-! ### Notes that are opened again -/

namespace Sample

/-- Notes, of which nothing is denied yet. -/
def note : Entity := { name := "Note", identity := "Id" }

/-- The text of a note. -/
def noteBody : Field := { name := "Body", type := .scalar .string }

/-- Denying removal where all is blocked permits reading again, and denying equality permits the
search for a part of a text that an earlier call denied. -/
theorem note_opened_again :
    (∀ operation, note.denyAll.Refuses operation) ∧
      (note.denyAll.deny [.delete]).permits .read = true ∧
      ¬ Persists Entity.restrict (Entity.Refuses .read) note [.all, .some [.delete]] ∧
      (noteBody.denyComparisons [.contains]).disallows .contains = true ∧
      ((noteBody.denyComparisons [.contains]).denyComparisons [.equal]).disallows .contains =
        false ∧
      ¬ Persists (fun field comparisons => field.denyComparisons comparisons)
        (fun field => field.disallows .contains = true) noteBody [[.contains], [.equal]] := by
  refine ⟨fun operation => rfl, rfl, fun persists => ?_, rfl, rfl, fun persists => ?_⟩
  · cases persists [.all] [.some [.delete]] [] rfl rfl
  · cases persists [[.contains]] [[.equal]] [] rfl rfl

end Sample

end RecordQuery
