import InstanceLink.Fetch.Client
import InstanceLink.Fetch.Session

/-!
# Executors

How the steps of a session are scheduled: by hand, at once inside the submission,
or by a pool of workers that take up queued calls in order. A call that is never
answered keeps its worker, and a fault that leaves a notification costs the pool
one.
-/

namespace InstanceLink

/-- A way to run submitted calls. -/
inductive Executor where
  | manual
  | inline
  | pool (workers : Nat)
  deriving DecidableEq, Repr

/-- A session with its executor and its admin client. -/
structure Fetcher where
  executor : Executor
  client : AdminClient
  session : Session

namespace Fetcher

/-- A fetcher that has done nothing. -/
def fresh (executor : Executor) (client : AdminClient) (sink : LogSink := .silent) : Fetcher :=
  ⟨executor, client, .fresh sink⟩

/-- Take some steps. -/
def take (x : Fetcher) (row : List Session.Step) : Fetcher :=
  { x with session := x.session.steps row }

/-- Whether a call is queued. -/
def isQueued (x : Fetcher) (fetch : Nat) (side : Side) : Bool :=
  match x.session.fetches[fetch]?, side with
  | some f, .metadata => match f.metadata.state with
    | .queued => true
    | _ => false
  | some f, .certificate => match f.certificate.state with
    | .queued => true
    | _ => false
  | none, _ => false

/-- Whether a call is with a worker. -/
def isRunning (x : Fetcher) (fetch : Nat) (side : Side) : Bool :=
  match x.session.fetches[fetch]?, side with
  | some f, .metadata => match f.metadata.state with
    | .begun | .sent => true
    | _ => false
  | some f, .certificate => match f.certificate.state with
    | .begun | .sent => true
    | _ => false
  | none, _ => false

/-- A begun call runs to its end: it sends its request and meets the client's
behaviour for a call of its number. -/
def work (x : Fetcher) (fetch : Nat) (side : Side) : Fetcher :=
  let number := x.session.sentCount side
  let x := x.take [.send fetch side]
  match x.client.reply? side number with
  | some reply => x.take [.finish fetch reply]
  | none => x

/-- The notification of a call, and what it sets. The fault is one that leaves the
notification. -/
def notify (x : Fetcher) (fetch : Nat) (side : Side) : Fetcher × Option Fault :=
  let escaped :=
    match x.session.entry? fetch side with
    | some (.escaped fault) => some fault
    | _ => none
  (x.take [.notify fetch side, .settle fetch], escaped)

/-- The fault that goes beyond the executor's own handling of notifications. -/
def stopping (fault : Option Fault) : Option Fault := fault.filter Fault.isStop

/-- The result is cancelled and every call of the fetch with it. -/
def cancel (x : Fetcher) (fetch : Nat) : Fetcher :=
  x.take [.cancel fetch, .propagate fetch .metadata, .notify fetch .metadata, .settle fetch,
    .propagate fetch .certificate, .notify fetch .certificate, .settle fetch]

/-- A single call is cancelled and notified. -/
def cancelCall (x : Fetcher) (fetch : Nat) (side : Side) : Fetcher × Option Fault :=
  let (x, fault) := (x.take [.cancelCall fetch side]).notify fetch side
  (x, stopping fault)

/-- A begun call runs to its end and is notified. -/
def finish (x : Fetcher) (fetch : Nat) (side : Side) : Fetcher × Option Fault :=
  let (x, fault) := (x.work fetch side).notify fetch side
  (x, stopping fault)

/-- Both calls of a fetch run at once, before anyone listens; then both ends are
notified. A fault that stops the program skips the rest. -/
def runInline (x : Fetcher) (fetch : Nat) : Fetcher × Option Fault :=
  let x := (x.take [.begin fetch .metadata]).work fetch .metadata
  let x := (x.take [.begin fetch .certificate]).work fetch .certificate
  let (x, fault) := x.notify fetch .metadata
  match stopping fault with
  | some fault => (x, some fault)
  | none =>
    let (x, fault) := x.notify fetch .certificate
    (x, stopping fault)

/-- All calls in the order they were submitted. -/
def callOrder (x : Fetcher) : List (Nat × Side) :=
  (List.range x.session.fetches.length).flatMap fun i => [(i, .metadata), (i, .certificate)]

/-- How many workers are busy. -/
def busy (x : Fetcher) : Nat := (x.callOrder.filter fun (i, side) => x.isRunning i side).length

/-- One queued call is offered to the pool: it runs when a worker is free. -/
def offer (x : Fetcher) (call : Nat × Side) : Fetcher :=
  match x.executor with
  | .pool workers =>
    if x.isQueued call.1 call.2 && x.busy < workers then
      let (x, fault) := (x.take [.begin call.1 call.2]).finish call.1 call.2
      match fault with
      | some _ => { x with executor := .pool (workers - 1) }
      | none => x
    else x
  | _ => x

/-- The pool works off the queue. -/
def runPool (x : Fetcher) : Fetcher := x.callOrder.foldl offer x

/-- A fetch: its position, or the fault that kept it from being returned. -/
def fetch (x : Fetcher) (name : InstanceName) (key : ClientKey) : Fetcher × Except Fault Nat :=
  let position := x.session.fetches.length
  let refusal := x.session.refusal? name
  let x := x.take [.fetch name key]
  match refusal with
  | some fault => (x, .error fault)
  | none =>
    match x.executor with
    | .manual => (x, .ok position)
    | .pool _ => (x.runPool, .ok position)
    | .inline =>
      let (x, fault) := x.runInline position
      (x, fault.elim (.ok position) .error)

/-- The fetcher is closed: the transport is closed by the first caller only, and may
raise then. -/
def close (x : Fetcher) : Fetcher × Option Fault :=
  if x.session.closed then (x, none)
  else (x.take [.beginClose, .closeTransport], x.client.closeFault)

/-- A block that uses the fetcher ends: the fetcher is closed, and a fault from
closing replaces the block's own. -/
def leave (x : Fetcher) (body : Option Fault) : Fetcher × Option Fault :=
  let (x, fault) := x.close
  (x, fault.orElse fun _ => body)

end Fetcher

end InstanceLink
