import InstanceLink.Fetch.Response

/-!
# Behaviour of the Admin API

How an admin client behaves over a run: for each call a row of behaviours, taken in
turn, of which the last repeats. A behaviour is a reply, or silence for the rest of
the run.
-/

namespace InstanceLink

/-- What one call meets. -/
inductive Behaviour (α : Type) where
  | reply (reply : Except Fault α)
  /-- No answer arrives. -/
  | silence

/-- The behaviour of an admin client. -/
structure AdminClient where
  metadata : List (Behaviour MetadataResponse)
  certificate : List (Behaviour CertificateResponse)
  /-- The fault that closing the transport raises. -/
  closeFault : Option Fault

namespace AdminClient

/-- The behaviour that the call of a given number meets, counted from zero. -/
def turn {α : Type} (row : List (Behaviour α)) (number : Nat) : Behaviour α :=
  (row[number]?).getD (row.getLast?.getD .silence)

/-- The reply to the call of a given number, if one comes. -/
def reply? (client : AdminClient) (side : Side) (number : Nat) : Option Reply :=
  match side with
  | .metadata =>
    match turn client.metadata number with
    | .reply r => some (.metadata r)
    | .silence => none
  | .certificate =>
    match turn client.certificate number with
    | .reply r => some (.certificate r)
    | .silence => none

/-- A row of one behaviour meets every call with it. -/
theorem turn_singleton {α : Type} (b : Behaviour α) (number : Nat) : turn [b] number = b := by
  cases number <;> simp [turn]

end AdminClient

end InstanceLink
