import InstanceLink.Registry.Executors
import InstanceLink.Tls.Properties

/-!
# Users of the registries

Callers ask for an executor in whatever way they like. A factory from pool properties asks for
one without a number of workers and then for the admin client, both before it reads the name of
its instance, so a factory that fails there has asked all the same.
-/

namespace InstanceLink

/-- A factory from pool properties, with the shared parts that it fetches with. -/
structure SharedFactory where
  instanceName : InstanceName
  executor : SharedExecutor
  /-- The position of its admin client among all built. -/
  admin : Nat

namespace Registry

/-- A factory from pool properties. Building an admin client may fail with a fault. -/
def factory (r : Registry) (properties : List (String × String)) (adminFault : Option Fault) :
    Registry × Except Fault SharedFactory :=
  match (properties.lookup Config.instanceProperty).filter fun s => !s.isEmpty with
  | none => (r, .error (.rule SocketFactory.requiredMessage))
  | some s =>
    match r.executor .omitted with
    | (r, .error fault) => (r, .error fault)
    | (r, .ok executor) =>
      match r.admin adminFault with
      | (r, .error fault) => (r, .error fault)
      | (r, .ok admin) =>
        match InstanceName.read s with
        | .ok name => (r, .ok ⟨name, executor, admin⟩)
        | .error cause => (r, .error (.instanceName cause))

/-- A use of the registries. -/
inductive Use where
  /-- An executor is asked for. -/
  | executor (request : WorkersRequest)
  /-- A factory is made from pool properties. -/
  | factory (properties : List (String × String)) (adminFault : Option Fault)

/-- The request for an executor that a use makes, if it comes to that. -/
def Use.request? : Use → Option WorkersRequest
  | .executor request => some request
  | .factory properties _ =>
    if (SocketFactory.ofProperties properties).1.contains .executor then some .omitted else none

/-- The registries behind a use. -/
def use (r : Registry) : Use → Registry
  | .executor request => (r.executor request).1
  | .factory properties adminFault => (r.factory properties adminFault).1

/-- The executor that a use is handed. -/
def handed? (r : Registry) (u : Use) : Option SharedExecutor :=
  u.request?.bind fun request => (r.executor request).2.toOption

/-- The registries behind a row of uses. -/
def uses (r : Registry) (row : List Use) : Registry := row.foldl use r

/-- The requests for an executor in a row of uses. -/
def requests (row : List Use) : List WorkersRequest := row.filterMap Use.request?

/-- The executors handed out over a row of uses. -/
def handedOut (r : Registry) : List Use → List SharedExecutor
  | [] => []
  | u :: row => (r.handed? u).toList ++ (r.use u).handedOut row

end Registry

end InstanceLink
