import InstanceLink.Field.Report

/-!
# Checking several fields

Fields are checked one by one and all their faults are kept. A checked field is
its value or its errors; a construction succeeds when no field has an error.
-/

namespace InstanceLink

/-- The outcome of checking one field. -/
abbrev Checked (α : Type) := Except (List FieldError) α

namespace Checked

/-- The errors of a checked field. -/
def errors {α : Type} : Checked α → List FieldError
  | .ok _ => []
  | .error errors => errors

/-- Check one named field with a rule; an absent field has the given outcome. -/
def named {α : Type} (fields : Fields) (name : String) (absent : Except FieldFault α)
    (rule : FieldValue → Except FieldFault α) : Checked α :=
  let located (value : FieldValue) (outcome : Except FieldFault α) : Checked α :=
    outcome.mapError fun fault => [⟨[.field name], fault, value⟩]
  match fields.lookup name with
  | some value => located value (rule value)
  | none => located (.map fields) absent

/-- A fault of the construction as a whole. -/
def whole {α : Type} (fields : Fields) (message : String) : Checked α :=
  .error [⟨[], .rule message, .map fields⟩]

/-- Assign a value to a name of a record that cannot be changed: the record as it is
afterwards, and the outcome. Every field is refused, and so is every other name but
those with a leading underscore, which are never fields. -/
def assign {α : Type} (record : α) (name : String) (value : FieldValue) : α × Checked Unit :=
  if name.toList.head? = some '_' then (record, .ok ())
  else (record, .error [⟨[.field name], .frozen, value⟩])

/-- No assignment changes a record. -/
theorem assign_record {α : Type} (record : α) (name : String) (value : FieldValue) :
    (assign record name value).1 = record := by
  unfold assign
  split <;> rfl

/-- Two checked fields with the errors of both. -/
def both {α β : Type} (a : Checked α) (b : Checked β) : Checked (α × β) :=
  match a, b with
  | .ok a, .ok b => .ok (a, b)
  | a, b => .error (a.errors ++ b.errors)

/-- Both succeed exactly when each does. -/
theorem both_eq_ok {α β : Type} {a : Checked α} {b : Checked β} {x : α} {y : β} :
    both a b = .ok (x, y) ↔ a = .ok x ∧ b = .ok y := by
  cases a <;> cases b <;> simp [both]

end Checked

end InstanceLink
