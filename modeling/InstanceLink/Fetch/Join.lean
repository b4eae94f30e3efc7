import InstanceLink.Fetch.Bundle
import InstanceLink.Fetch.Event

/-!
# One fetch

A fetch owns two calls and a result. Each call is queued, begun, sent and over, or
cancelled while queued. When a call is over it owes one notification; a
notification that finds both calls over and the result open enters the join, works
out what to set and holds the join until that is set. A failure is announced before it is
set; where that raises a fault, the notification is left by it. Cancelling the result is
passed on to each call as a step of its own.
-/

namespace InstanceLink

/-- Where a call stands. -/
inductive CallState (α : Type) where
  | queued
  /-- Taken up by a worker; the request has not been sent. -/
  | begun
  /-- The request has been sent and not been answered. -/
  | sent
  | over (outcome : Outcome α)

/-- One call of a fetch. -/
structure Call (α : Type) where
  state : CallState α
  /-- Whether the notification of its end has been given. -/
  notified : Bool

namespace Call

/-- A call that waits for a worker. -/
def fresh {α : Type} : Call α := ⟨.queued, false⟩

/-- How a call ended, once it is over. -/
def outcome? {α : Type} (c : Call α) : Option (Outcome α) :=
  match c.state with
  | .over outcome => some outcome
  | _ => none

/-- Whether a call is over. -/
def isOver {α : Type} (c : Call α) : Bool := c.outcome?.isSome

/-- Whether the end of a call has still to be notified. -/
def owes {α : Type} (c : Call α) : Bool := c.isOver && !c.notified

/-- A queued call is taken up; any other is left alone. -/
def begin {α : Type} (c : Call α) : Call α :=
  match c.state with
  | .queued => { c with state := .begun }
  | _ => c

/-- A begun call sends its request, or is over when the request cannot be built. -/
def send {α : Type} (request : Except Fault Request) (c : Call α) : Call α :=
  match c.state with
  | .begun =>
    match request with
    | .ok _ => { c with state := .sent }
    | .error fault => { c with state := .over (.raised fault) }
  | _ => c

/-- What a call ends with that was answered a fault: the fault classified, unless it asks the
program to stop, or the fault that classifying it raises. -/
def raisedFor (fault : Fault) : Fault :=
  if fault.isStop then fault
  else
    match classified fault with
    | .ok error => .connector error
    | .error cause => cause

/-- The end of a call that was answered. -/
def answered {α : Type} : Except Fault α → Outcome α
  | .ok value => .returned value
  | .error fault => .raised (raisedFor fault)

/-- A sent call is over with a reply. -/
def finish {α : Type} (reply : Except Fault α) (c : Call α) : Call α :=
  match c.state with
  | .sent => { c with state := .over (answered reply) }
  | _ => c

/-- A queued call is cancelled; one that a worker took up is not. -/
def cancel {α : Type} (c : Call α) : Call α :=
  match c.state with
  | .queued => { c with state := .over .cancelled }
  | _ => c

/-- Whether a call may be asked to cancel: it is, or already was, cancelled. -/
def isCancellable {α : Type} (c : Call α) : Bool :=
  match c.state with
  | .queued | .over .cancelled => true
  | _ => false

/-- A call that is over stays as it ended, whatever is asked of it. -/
theorem cancel_of_isOver {α : Type} {c : Call α} (h : c.isOver = true) : c.cancel = c := by
  unfold cancel
  cases hs : c.state <;> simp_all [isOver, outcome?]

end Call

/-- The result of a fetch. -/
inductive FetchResult where
  | pending
  | bundle (info : ConnectionInfo)
  | failed (error : ConnectorError)
  | cancelled

/-- Whether a result is settled. -/
def FetchResult.isDone : FetchResult → Bool
  | .pending => false
  | _ => true

/-- One fetch. -/
structure Fetch where
  name : InstanceName
  key : ClientKey
  /-- What its log calls meet. -/
  sink : LogSink
  metadata : Call MetadataResponse
  certificate : Call CertificateResponse
  result : FetchResult
  /-- What the notification inside the join is about to set. -/
  deciding : Option Joined

namespace Fetch

/-- A fetch whose calls have just been queued. -/
def fresh (name : InstanceName) (key : ClientKey) (sink : LogSink) : Fetch :=
  ⟨name, key, sink, .fresh, .fresh, .pending, none⟩

/-- Whether a call of the fetch is over. -/
def isOver (f : Fetch) : Side → Bool
  | .metadata => f.metadata.isOver
  | .certificate => f.certificate.isOver

/-- Whether a call of the fetch owes its notification. -/
def owes (f : Fetch) : Side → Bool
  | .metadata => f.metadata.owes
  | .certificate => f.certificate.owes

/-- The request of a call of the fetch. -/
def request (f : Fetch) : Side → Except Fault Request
  | .metadata => .ok (metadataRequest f.name)
  | .certificate => certificateRequest f.name f.key

/-- A call is taken up. -/
def begin (f : Fetch) : Side → Fetch
  | .metadata => { f with metadata := f.metadata.begin }
  | .certificate => { f with certificate := f.certificate.begin }

/-- A call sends its request. -/
def send (f : Fetch) : Side → Fetch
  | .metadata => { f with metadata := f.metadata.send (f.request .metadata) }
  | .certificate => { f with certificate := f.certificate.send (f.request .certificate) }

/-- The request that sending would give the Admin API. -/
def sending? (f : Fetch) (side : Side) : Option Request :=
  let begun :=
    match side with
    | .metadata => match f.metadata.state with
      | .begun => true
      | _ => false
    | .certificate => match f.certificate.state with
      | .begun => true
      | _ => false
  if begun then (f.request side).toOption else none

/-- A call is over with its reply. -/
def finish (f : Fetch) : Reply → Fetch
  | .metadata reply => { f with metadata := f.metadata.finish reply }
  | .certificate reply => { f with certificate := f.certificate.finish reply }

/-- A call is cancelled while it is queued. -/
def cancelCall (f : Fetch) : Side → Fetch
  | .metadata => { f with metadata := f.metadata.cancel }
  | .certificate => { f with certificate := f.certificate.cancel }

/-- What both ends combine to, once both calls are over. -/
def combined? (f : Fetch) : Option Joined :=
  match f.metadata.outcome?, f.certificate.outcome? with
  | some m, some c => some (combine m c)
  | _, _ => none

/-- What a notification that enters the join works out: nothing while a call is not
over or once the result is settled. -/
def worked? (f : Fetch) : Option Joined :=
  match f.result with
  | .pending => f.combined?
  | _ => none

/-- The fault that announcing a failure raises: writing the failure may raise one, and then the
log call. -/
def announceFault? (f : Fetch) (error : ConnectorError) : Option Fault :=
  error.textFault?.or (f.sink.fault? (FetchEvent.failureRecord f.name error))

/-- What a join comes to once its failure is announced. -/
def announce (f : Fetch) : Joined → Joined
  | .failed error =>
    match f.announceFault? error with
    | none => .failed error
    | some fault => .escaped fault
  | joined => joined

/-- What a notification that enters the join comes to. -/
def entry (f : Fetch) : Option Joined := f.worked?.map f.announce

/-- The failure that a notification which enters the join logs: the one worked out, if it can be
written. -/
def reported? (f : Fetch) : Option ConnectorError :=
  match f.worked? with
  | some (.failed error) => if error.textFault?.isNone then some error else none
  | _ => none

/-- The notification of a call is given. -/
def markNotified (f : Fetch) : Side → Fetch
  | .metadata => { f with metadata := { f.metadata with notified := true } }
  | .certificate => { f with certificate := { f.certificate with notified := true } }

/-- Whether the notification of a call can be given now: it is owed and nobody holds
the join. -/
def canNotify (f : Fetch) (side : Side) : Bool := f.owes side && f.deciding.isNone

/-- A notification: it may take hold of the join. A fault that leaves the join gives
it up again. -/
def notify (f : Fetch) (side : Side) : Fetch :=
  if f.canNotify side then
    let deciding :=
      match f.entry with
      | some (.escaped _) => none
      | entry => entry
    { f.markNotified side with deciding := deciding }
  else f

/-- What is held in the join is set, unless the result was cancelled meanwhile. -/
def settle (f : Fetch) : Fetch :=
  match f.deciding, f.result with
  | some (.bundle info), .pending => { f with result := .bundle info, deciding := none }
  | some (.failed error), .pending => { f with result := .failed error, deciding := none }
  | _, _ => { f with deciding := none }

/-- The caller cancels the result. -/
def cancel (f : Fetch) : Fetch :=
  match f.result with
  | .pending => { f with result := .cancelled }
  | _ => f

/-- Whether cancelling tells the caller that the result is cancelled. -/
def cancelAnswer (f : Fetch) : Bool :=
  match f.result with
  | .pending | .cancelled => true
  | _ => false

/-- A cancelled result cancels a call. -/
def propagate (f : Fetch) (side : Side) : Fetch :=
  match f.result with
  | .cancelled => f.cancelCall side
  | _ => f

/-- Cancelling answers yes exactly when the result ends cancelled. -/
theorem cancelAnswer_iff (f : Fetch) : f.cancelAnswer = true ↔ f.cancel.result = .cancelled := by
  unfold cancelAnswer cancel
  cases h : f.result <;> simp [h]

end Fetch

end InstanceLink
