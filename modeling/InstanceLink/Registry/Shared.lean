/-!
# Shared objects

A registry keeps the last object built, under the key it was asked for, and counts
how often it could hand that object out again. Only one entry is kept: another key
evicts it. A construction that fails leaves the entry alone.
-/

namespace InstanceLink

/-- A registry of one entry, with its counters. -/
structure Shared (Key Value : Type) where
  entry : Option (Key × Value)
  hits : Nat
  misses : Nat

namespace Shared

variable {Key Value Reason : Type}

/-- A registry that has not been asked for anything. -/
def fresh : Shared Key Value := ⟨none, 0, 0⟩

/-- How many objects are kept. -/
def size (r : Shared Key Value) : Nat := if r.entry.isSome then 1 else 0

/-- The object kept under a key. -/
def find? [DecidableEq Key] (r : Shared Key Value) (key : Key) : Option Value :=
  match r.entry with
  | some (k, value) => if k = key then some value else none
  | none => none

/-- The object for a key: the one kept, or else a new one, which is kept when it
could be built. -/
def get [DecidableEq Key] (r : Shared Key Value) (key : Key) (build : Except Reason Value) :
    Shared Key Value × Except Reason Value :=
  match r.find? key with
  | some value => ({ r with hits := r.hits + 1 }, .ok value)
  | none =>
    match build with
    | .ok value => ({ r with entry := some (key, value), misses := r.misses + 1 }, .ok value)
    | .error reason => ({ r with misses := r.misses + 1 }, .error reason)

/-- Forget the entry and the counters. -/
def clear (_ : Shared Key Value) : Shared Key Value := fresh

/-- An object that was just built is handed out again for the same key. -/
theorem find?_get [DecidableEq Key] (r : Shared Key Value) (key : Key) (value : Value)
    (h : r.find? key = none) :
    (r.get key (.ok value : Except Reason Value)).1.find? key = some value := by
  unfold get
  rw [h]
  simp [find?]

end Shared

end InstanceLink
