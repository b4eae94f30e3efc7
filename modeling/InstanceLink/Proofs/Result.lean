import Mathlib.Data.List.Forall2

/-!
# Results that may be faults

A result that is made in steps is there exactly when the result of each step is, and it is the one
that the steps give; a row of checks gives a row of results or the fault of one of them.
-/

namespace InstanceLink

variable {α β ε ε' : Type}

/-- A step behind another gives a result exactly when both do. -/
theorem bind_eq_ok_iff {first : Except ε α} {next : α → Except ε β} {b : β} :
    (first >>= next) = .ok b ↔ ∃ a, first = .ok a ∧ next a = .ok b := by
  cases first <;> simp [bind, Except.bind]

/-- What is made of a result is there exactly when the result is. -/
theorem map_eq_ok_iff {outcome : Except ε α} {change : α → β} {b : β} :
    outcome.map change = .ok b ↔ ∃ a, outcome = .ok a ∧ change a = b := by
  cases outcome <;> simp [Except.map]

/-- The result of an outcome without its error is the one it succeeded with. -/
theorem toOption_eq_some_iff {outcome : Except ε α} {a : α} :
    outcome.toOption = some a ↔ outcome = .ok a := by
  cases outcome <;> simp [Except.toOption]

/-- An outcome with its error reworded succeeds as the outcome does. -/
theorem mapError_eq_ok_iff {outcome : Except ε α} {reword : ε → ε'} {a : α} :
    outcome.mapError reword = .ok a ↔ outcome = .ok a := by
  cases outcome with
  | ok b =>
    constructor
    · intro h
      cases h
      rfl
    · intro h
      cases h
      rfl
  | error e =>
    constructor
    · intro h
      contradiction
    · intro h
      contradiction

/-- An outcome with its error reworded fails with the reworded error. -/
theorem mapError_eq_error_iff {outcome : Except ε α} {reword : ε → ε'} {e : ε'} :
    outcome.mapError reword = .error e ↔ ∃ cause, outcome = .error cause ∧ reword cause = e := by
  cases outcome <;> simp [Except.mapError]

/-- A row of checks succeeds exactly when each check gives the value in its place. -/
theorem mapM_eq_ok_iff {f : α → Except ε β} {xs : List α} {ys : List β} :
    xs.mapM f = .ok ys ↔ List.Forall₂ (fun x y => f x = .ok y) xs ys := by
  induction xs generalizing ys with
  | nil => cases ys <;> simp [pure, Except.pure]
  | cons x xs ih =>
    rw [List.mapM_cons]
    cases hx : f x with
    | error e => cases ys <;> simp [bind, Except.bind, hx]
    | ok y =>
      cases hxs : xs.mapM f with
      | error e =>
        have hno : ∀ ys, ¬List.Forall₂ (fun x y => f x = .ok y) xs ys := by
          intro ys h
          rw [ih.mpr h] at hxs
          contradiction
        cases ys <;> simp [bind, Except.bind, hx, hno]
      | ok rest =>
        have hrest : ∀ ys, List.Forall₂ (fun x y => f x = .ok y) xs ys ↔ rest = ys := by
          intro ys
          rw [← ih, hxs, Except.ok.injEq]
        cases ys <;> simp [bind, Except.bind, pure, Except.pure, hx, hrest]

/-- A row of checks fails with the fault of one of them. -/
theorem mapM_error {f : α → Except ε β} {xs : List α} {e : ε} (h : xs.mapM f = .error e) :
    ∃ x ∈ xs, f x = .error e := by
  induction xs with
  | nil => contradiction
  | cons x xs ih =>
    rw [List.mapM_cons] at h
    cases hx : f x with
    | error e' =>
      rw [hx] at h
      cases h
      exact ⟨x, List.mem_cons_self, hx⟩
    | ok y =>
      cases hxs : xs.mapM f with
      | error e' =>
        rw [hx, hxs] at h
        cases h
        obtain ⟨z, hz, he⟩ := ih hxs
        exact ⟨z, List.mem_cons_of_mem x hz, he⟩
      | ok ys =>
        rw [hx, hxs] at h
        contradiction

end InstanceLink
