import InstanceLink.Failure.Fault
import InstanceLink.Registry.Shared

/-!
# The shared executor and admin client

Executors are shared by the way their number of workers is asked for: leaving it
out, giving it by position and giving it by name are different keys even for the
same number. There is one admin client.
-/

namespace InstanceLink

/-- How a number of workers is asked for. -/
inductive WorkersRequest where
  | omitted
  | positional (workers : Int)
  | named (workers : Int)
  deriving DecidableEq, Repr

namespace WorkersRequest

/-- The number of workers when none is given. -/
def defaultWorkers : Int := 4

/-- The number of workers asked for. -/
def workers : WorkersRequest → Int
  | .omitted => defaultWorkers
  | .positional workers => workers
  | .named workers => workers

end WorkersRequest

/-- An executor as the registry hands it out. -/
structure SharedExecutor where
  /-- Its position among all executors built. -/
  number : Nat
  workers : Int
  deriving DecidableEq, Repr

/-- The name given to the threads of every executor. -/
def threadName : String := "alloydb-connector"

/-- Both registries and what was built for them. -/
structure Registry where
  executors : Shared WorkersRequest SharedExecutor
  admins : Shared Unit Nat
  /-- How many executors were built. -/
  executorsBuilt : Nat
  /-- The executors that were shut down. -/
  shutDown : List Nat
  /-- How often building an admin client was tried. -/
  adminsTried : Nat
  /-- How many admin clients were built. -/
  adminsBuilt : Nat

namespace Registry

/-- Registries that have not been used. -/
def fresh : Registry := ⟨.fresh, .fresh, 0, [], 0, 0⟩

/-- A new executor, unless it would have no worker. -/
def build (number : Nat) (workers : Int) : Except Fault SharedExecutor :=
  if workers ≤ 0 then .error (.rule "max_workers must be greater than 0")
  else .ok ⟨number, workers⟩

/-- The executor for a request. -/
def executor (r : Registry) (request : WorkersRequest) :
    Registry × Except Fault SharedExecutor :=
  let (executors, answer) := r.executors.get request (build r.executorsBuilt request.workers)
  let built := if answer.toOption.any fun e => e.number = r.executorsBuilt then 1 else 0
  ({ r with executors := executors, executorsBuilt := r.executorsBuilt + built }, answer)

/-- The admin client; building one may fail with a fault. -/
def admin (r : Registry) (failure : Option Fault) : Registry × Except Fault Nat :=
  let build : Except Fault Nat := failure.elim (.ok r.adminsBuilt) .error
  let tried := if (r.admins.find? ()).isSome then 0 else 1
  let (admins, answer) := r.admins.get () build
  let built := if tried = 1 && failure.isNone then 1 else 0
  ({ r with admins := admins, adminsTried := r.adminsTried + tried,
            adminsBuilt := r.adminsBuilt + built }, answer)

/-- Hand work to an executor. -/
def submit (r : Registry) (number : Nat) : Except Fault Unit :=
  if r.shutDown.contains number then .error .executorClosed else .ok ()

/-- Shut an executor down. -/
def stop (r : Registry) (number : Nat) : Registry := { r with shutDown := number :: r.shutDown }

end Registry

end InstanceLink
