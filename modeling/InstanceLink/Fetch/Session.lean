import InstanceLink.Fetch.Join

/-!
# Sessions of a fetcher

A fetcher serves any number of fetches over one admin client and closes that
client at most once. A session is its whole history: the fetches, the requests
sent, the log, and how far closing has got. It moves by single steps, in any order
the outside chooses; a step that does not apply changes nothing. What is logged meets the
handlers of one logger, and a call that one of them leaves by a fault does nothing more.
-/

namespace InstanceLink

/-- The history of a fetcher. -/
structure Session where
  /-- What its log calls meet. -/
  sink : LogSink
  fetches : List Fetch
  /-- Events in the order they were logged. -/
  events : List FetchEvent
  /-- Requests in the order they were sent, each with the position of its fetch. -/
  requests : List (Nat × Request)
  /-- Whether the executor accepts no further work. -/
  shutDown : Bool
  /-- Whether closing was begun. -/
  closed : Bool
  /-- How many callers are on their way to the transport. -/
  closing : Nat
  /-- How often the transport was closed. -/
  closes : Nat

namespace Session

/-- A session in which nothing has happened. -/
def fresh (sink : LogSink) : Session := ⟨sink, [], [], [], false, false, 0, 0⟩

/-- The single steps of a session. -/
inductive Step where
  /-- A fetch is asked for. -/
  | fetch (name : InstanceName) (key : ClientKey)
  /-- A worker takes up a call. -/
  | begin (fetch : Nat) (side : Side)
  /-- A call sends its request. -/
  | send (fetch : Nat) (side : Side)
  /-- A call is answered. -/
  | finish (fetch : Nat) (reply : Reply)
  /-- The executor cancels a queued call. -/
  | cancelCall (fetch : Nat) (side : Side)
  /-- The end of a call is notified. -/
  | notify (fetch : Nat) (side : Side)
  /-- What the join holds is set. -/
  | settle (fetch : Nat)
  /-- The caller cancels a result. -/
  | cancel (fetch : Nat)
  /-- A cancelled result cancels a call. -/
  | propagate (fetch : Nat) (side : Side)
  /-- The executor stops accepting work. -/
  | shutDown
  /-- A caller begins to close the fetcher. -/
  | beginClose
  /-- A caller on its way closes the transport. -/
  | closeTransport

/-- Change one fetch. -/
def update (s : Session) (fetch : Nat) (change : Fetch → Fetch) : Session :=
  { s with fetches := s.fetches.modify fetch change }

/-- What the notification of a call would find in the join. -/
def entry? (s : Session) (fetch : Nat) (side : Side) : Option Joined :=
  (s.fetches[fetch]?).bind fun f => if f.canNotify side then f.entry else none

/-- The event a notification logs. -/
def notifyEvent? (s : Session) (fetch : Nat) (side : Side) : Option FetchEvent :=
  (s.fetches[fetch]?).bind fun f =>
    if f.canNotify side then f.reported?.map (.failing fetch f.name) else none

/-- The fault that keeps a fetch from being made: the log call raises one, or the executor accepts
no work. -/
def refusal? (s : Session) (name : InstanceName) : Option Fault :=
  (s.sink.fault? (FetchEvent.fetching name).record).or
    (if s.shutDown then some .executorClosed else none)

/-- One step. -/
def step (s : Session) : Step → Session
  | .fetch name key =>
    let fetch := if (s.refusal? name).isNone then [Fetch.fresh name key s.sink] else []
    { s with events := s.events ++ [.fetching name], fetches := s.fetches ++ fetch }
  | .begin fetch side => s.update fetch fun f => f.begin side
  | .send fetch side =>
    let sent := ((s.fetches[fetch]?).bind fun f => f.sending? side).map fun r => (fetch, r)
    { s.update fetch (fun f => f.send side) with requests := s.requests ++ sent.toList }
  | .finish fetch reply => s.update fetch fun f => f.finish reply
  | .cancelCall fetch side => s.update fetch fun f => f.cancelCall side
  | .notify fetch side =>
    let event := s.notifyEvent? fetch side
    { s.update fetch (fun f => f.notify side) with events := s.events ++ event.toList }
  | .settle fetch => s.update fetch Fetch.settle
  | .cancel fetch => s.update fetch Fetch.cancel
  | .propagate fetch side => s.update fetch fun f => f.propagate side
  | .shutDown => { s with shutDown := true }
  | .beginClose =>
    if s.closed then s
    else { s with closed := true, closing := s.closing + 1, events := s.events ++ [.closing] }
  | .closeTransport =>
    if s.closing = 0 then s
    else { s with closing := s.closing - 1, closes := s.closes + 1 }

/-- A row of steps. -/
def steps (s : Session) (row : List Step) : Session := row.foldl step s

/-- Steps in a row may be taken one after the other. -/
theorem steps_append (s : Session) (a b : List Step) : s.steps (a ++ b) = (s.steps a).steps b :=
  List.foldl_append

/-- How many requests of a call have been sent. -/
def sentCount (s : Session) (side : Side) : Nat :=
  (s.requests.filter fun r => r.2.side = side).length

/-- The log records of a session. -/
def log (s : Session) : List LogRecord := s.events.map FetchEvent.record

end Session

end InstanceLink
