import InstanceLink.Failure.Fault

/-!
# Classification

The status code of any fault, the class that code decides, the wrapping of a
fault as a classified one, and the choice among several failures. Wrapping a
classified fault gives it back unchanged. Any other fault is asked for its code and its
text, and a fault that asking raises is raised in its place.
-/

namespace InstanceLink

/-- The phrase before the reason of every failed fetch. -/
def failureMessage (reason : String) : String :=
  "AlloyDB Admin API failed to return the connection info. Reason: " ++ reason

namespace Fault

/-- The status code and the HTTP code of a fault that is an error answer, or the fault that asking
for them raises. -/
def answer? : Fault → Option (Except Fault (Option StatusCode × Option Int))
  | .call error => some (.ok (error.status, error.http))
  | .outside (.own _ answer _) _ _ => answer
  | _ => none

/-- The code of a fault that is a remote call and can be asked for one, as far as it is a status
code, or the fault that asking raises. -/
def code? : Fault → Option (Except Fault (Option StatusCode))
  | .remote true status _ => some (.ok status)
  | .outside (.own _ _ code) _ _ => code
  | _ => none

/-- The fault that asking a fault for its codes raises. An error answer is not asked as a remote
call. -/
def codeFault? (fault : Fault) : Option Fault :=
  match fault.answer?, fault.code? with
  | some (.error cause), _ => some cause
  | none, some (.error cause) => some cause
  | _, _ => none

/-- The fault that classifying a fault raises. A classified one is asked for nothing; any other is
asked for its codes and then for its text. -/
def obstacle? : Fault → Option Fault
  | .connector _ => none
  | fault => fault.codeFault?.or fault.textFault?

end Fault

/-- The status code of a fault. An error answer gives its own code, or the one its
HTTP code stands for; any other remote call gives the code it answers with; everything else
is unknown. -/
def statusOf (fault : Fault) : StatusCode :=
  match fault.answer?, fault.code? with
  | some (.ok (some status, _)), _ => status
  | some (.ok (none, some http)), _ => StatusCode.ofHttp http
  | none, some (.ok (some status)) => status
  | _, _ => .unknown

/-- The class a status code decides. -/
def classify (status : StatusCode) : ConnectorClass :=
  if status.isTerminal then .terminal else .transient

/-- A fault as a classified failure, where it can be asked for its codes and its text. -/
def handle : Fault → ConnectorError
  | .connector error => error
  | fault =>
    let status := statusOf fault
    ⟨classify status, failureMessage (status.name ++ ": " ++ fault.text), status, some fault, true⟩

/-- A fault as a classified failure, or the fault that asking it raises. -/
def classified (fault : Fault) : Except Fault ConnectorError :=
  match fault.obstacle? with
  | some cause => .error cause
  | none => .ok (handle fault)

/-- Handling what was handled changes nothing. -/
theorem handle_handle (fault : Fault) : handle (.connector (handle fault)) = handle fault := rfl

/-- The position of the failure to report: the first one classified as terminal, or else the
first of all. Each failure is asked on the way. -/
def representativeFrom (position : Nat) : List ConnectorError → Except Fault Nat
  | [] => .ok 0
  | error :: rest =>
    match error.classification with
    | .error fault => .error fault
    | .ok true => .ok position
    | .ok false => representativeFrom (position + 1) rest

/-- The failure to report, with its position. -/
def representative (errors : List ConnectorError) : Except Fault (Nat × ConnectorError) :=
  match representativeFrom 0 errors with
  | .error fault => .error fault
  | .ok position =>
    match errors[position]? with
    | some error => .ok (position, error)
    | none => .error .noElement

end InstanceLink
