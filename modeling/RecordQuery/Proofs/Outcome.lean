import Mathlib.Data.List.Forall2

/-!
# Outcomes of steps

A step gives a value or a fault. These are the ways in which one step after another, or one for
each element of a list, comes to its value or to its fault.
-/

namespace RecordQuery

variable {ε α β : Type}

theorem ok_bind {value : α} {next : α → Except ε β} :
    (Except.ok value >>= next) = next value := rfl

theorem bind_ok_unit {step : Except ε Unit} : (step >>= fun _ => .ok ()) = step := by
  cases step <;> rfl

/-- What follows a check is reached when the check passes. -/
theorem check_bind_eq_ok {check : Except ε Unit} {next : Unit → Except ε β} {result : β} :
    (check >>= next) = .ok result ↔ check = .ok () ∧ next () = .ok result := by
  cases check <;> simp [bind, Except.bind]

@[simp] theorem bind_eq_ok {step : Except ε α} {next : α → Except ε β} {result : β} :
    (step >>= next) = .ok result ↔ ∃ value, step = .ok value ∧ next value = .ok result := by
  cases step <;> simp [bind, Except.bind]

@[simp] theorem bind_eq_error {step : Except ε α} {next : α → Except ε β} {fault : ε} :
    (step >>= next) = .error fault ↔
      step = .error fault ∨ ∃ value, step = .ok value ∧ next value = .error fault := by
  cases step <;> simp [bind, Except.bind]

@[simp] theorem pure_eq_ok {value result : α} :
    (pure value : Except ε α) = .ok result ↔ value = result := by
  simp [pure, Except.pure]

@[simp] theorem pure_ne_error {value : α} {fault : ε} :
    (pure value : Except ε α) ≠ .error fault := by
  simp [pure, Except.pure]

@[simp] theorem map_eq_ok {change : α → β} {step : Except ε α} {result : β} :
    step.map change = .ok result ↔ ∃ value, step = .ok value ∧ change value = result := by
  cases step <;> simp [Except.map]

@[simp] theorem map_eq_error {change : α → β} {step : Except ε α} {fault : ε} :
    step.map change = .error fault ↔ step = .error fault := by
  cases step <;> simp [Except.map]

@[simp] theorem functor_map_eq_ok {change : α → β} {step : Except ε α} {result : β} :
    (change <$> step) = .ok result ↔ ∃ value, step = .ok value ∧ change value = result :=
  map_eq_ok

@[simp] theorem functor_map_eq_error {change : α → β} {step : Except ε α} {fault : ε} :
    (change <$> step) = .error fault ↔ step = .error fault :=
  map_eq_error

/-- A traversal succeeds when each of its steps does. -/
theorem mapM_eq_ok {step : α → Except ε β} {values : List α} {results : List β} :
    values.mapM step = .ok results ↔
      List.Forall₂ (fun value result => step value = .ok result) values results := by
  induction values generalizing results with
  | nil => cases results <;> simp
  | cons value rest ih => cases results <;> simp [ih]

/-- A traversal that fails has a step with its fault. -/
theorem exists_of_mapM_eq_error {step : α → Except ε β} {values : List α} {fault : ε}
    (failed : values.mapM step = .error fault) : ∃ value ∈ values, step value = .error fault := by
  induction values with
  | nil => simp at failed
  | cons value rest ih =>
    simp only [List.mapM_cons, bind_pure_comp, bind_eq_error, functor_map_eq_error] at failed
    -- The fault is that of the first step, or the rest has it.
    rcases failed with head | ⟨_, _, tail⟩
    · exact ⟨value, List.mem_cons_self, head⟩
    · obtain ⟨later, member, failure⟩ := ih tail
      exact ⟨later, List.mem_cons_of_mem _ member, failure⟩

/-- Each element of a list has one that it is related to in a list that is related in order. -/
theorem exists_related {related : α → β → Prop} {values : List α} {results : List β}
    (pairs : List.Forall₂ related values results) {result : β} (member : result ∈ results) :
    ∃ value ∈ values, related value result := by
  induction pairs with
  | nil => simp at member
  | @cons value first _ _ here _ ih =>
    rcases List.mem_cons.mp member with rfl | later
    · exact ⟨value, List.mem_cons_self, here⟩
    · obtain ⟨other, found, there⟩ := ih later
      exact ⟨other, List.mem_cons_of_mem _ found, there⟩

end RecordQuery
