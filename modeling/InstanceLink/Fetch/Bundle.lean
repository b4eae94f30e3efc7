import InstanceLink.Connection.Info
import InstanceLink.Failure.Classify
import InstanceLink.Fetch.Response

/-!
# Joining two finished calls

What a fetch ends with once both calls are over. Any failure wins over assembling;
of two failures a terminal one is reported first, else the one of the metadata
call. Assembling takes the whole chain or nothing. A fault that is raised on the way is
reported like a failure if it is a connector error, and leaves the join otherwise.
-/

namespace InstanceLink

/-- How a call ended. -/
inductive Outcome (α : Type) where
  | returned (value : α)
  | raised (fault : Fault)
  | cancelled

/-- The failure reported for a call that was cancelled. -/
def cancelledFailure (cause : Fault) : ConnectorError :=
  ⟨.known .transient, failureMessage "request was cancelled", .cancelled, some cause, false⟩

/-- The failure a call contributes, if any. A request to stop the program passes, and so does a
fault that asking the call's own fault raises. -/
def Outcome.failure {α : Type} : Outcome α → Except Fault (Option ConnectorError)
  | .returned _ => .ok none
  | .cancelled => .ok (some (cancelledFailure .cancelledWork))
  | .raised fault =>
    if fault.isStop then .error fault
    else if fault.isCancelled then .ok (some (cancelledFailure fault))
    else (classified fault).map some

/-- A text that is absent when empty. -/
def presentText (s : String) : Option String := if s.isEmpty then none else some s

/-- The certificate of a text. -/
def parsedCertificate (s : String) : Except Fault Certificate :=
  (Certificate.readText s).mapError .certificate

/-- The bundle of two answers. -/
def assemble (m : MetadataResponse) (c : CertificateResponse) : Except Fault ConnectionInfo := do
  let chain ← c.chain.mapM parsedCertificate
  match chain with
  | [] => .error .emptyChain
  | leader :: rest =>
    let authority ← parsedCertificate c.authority
    return ⟨m.ipAddress, presentText m.publicIpAddress, presentText m.pscDnsName,
      m.instanceUid, leader, rest, authority⟩

/-- What joining two finished calls gives. -/
inductive Joined where
  | bundle (info : ConnectionInfo)
  | failed (error : ConnectorError)
  /-- A fault that is no connector error leaves the join. -/
  | escaped (fault : Fault)

/-- What a fault that is raised on the way to a join makes of it. -/
def Joined.ofFault : Fault → Joined
  | .connector error => .failed error
  | fault => .escaped fault

/-- The failures of both calls, in the fixed order of the calls. -/
def failures (m : Outcome MetadataResponse) (c : Outcome CertificateResponse) :
    Except Fault (List ConnectorError) := do
  let first ← m.failure
  let second ← c.failure
  return first.toList ++ second.toList

/-- The assembled bundle, or its failure handled like any other. -/
def joinAnswers (m : MetadataResponse) (c : CertificateResponse) : Joined :=
  match assemble m c with
  | .ok info => .bundle info
  | .error fault => .failed (handle fault)

/-- The join of two finished calls. -/
def combine (m : Outcome MetadataResponse) (c : Outcome CertificateResponse) : Joined :=
  match m, c with
  | .returned m, .returned c => joinAnswers m c
  | m, c =>
    match failures m c with
    | .error fault => .ofFault fault
    | .ok errors =>
      match representative errors with
      | .error fault => .ofFault fault
      | .ok (_, error) => .failed error

/-- Two answers are joined without looking for failures. -/
theorem combine_returned (m : MetadataResponse) (c : CertificateResponse) :
    combine (.returned m) (.returned c) = joinAnswers m c := rfl

end InstanceLink
