import InstanceLink.Fetch.Executor

/-!
# Callers that close a fetcher

Any number of callers close one fetcher, by asking for it or by leaving a block that uses it,
while it serves fetches. Each takes the lock of the fetcher, looks under it whether closing
was begun, notes that it is now, and gives the lock back. Only then does the caller that made
the note announce closing and close the transport. The callers move one at a time, in any
order that the lock allows.
-/

namespace InstanceLink

/-- How far a caller has got that closes a fetcher. -/
inductive CloserState where
  /-- It waits for the lock. -/
  | waiting
  /-- It has the lock. -/
  | holding
  /-- It has the lock and has found that closing was not begun. -/
  | first
  /-- It has the lock and has found that closing was begun. -/
  | late
  /-- It has the lock and has noted that closing is begun. -/
  | noted
  /-- It has given the lock back after the note. -/
  | released
  /-- It has announced closing. -/
  | announced
  /-- It has called for the transport to be closed. -/
  | calling
  /-- It went away because closing was begun before. -/
  | turnedAway
  /-- Its call to close the transport has come to an end, with what it raised. -/
  | closed (fault : Option Fault)

namespace CloserState

/-- Whether a caller is through. -/
def isOver : CloserState → Bool
  | .turnedAway | .closed _ => true
  | _ => false

/-- Whether a caller has called for the transport to be closed. -/
def hasCalled : CloserState → Bool
  | .calling | .closed _ => true
  | _ => false

end CloserState

/-- A caller that closes a fetcher. -/
structure Closer where
  /-- What its block has raised; a caller that only asks to close has none. -/
  body : Option Fault
  state : CloserState

namespace Closer

/-- What a caller raises that is through: a fault from closing the transport replaces that of
its block. -/
def raised (x : Closer) : Option Fault :=
  match x.state with
  | .closed fault => fault.orElse fun _ => x.body
  | _ => x.body

end Closer

/-- A session with the callers that close its fetcher. -/
structure ClosingSession where
  session : Session
  /-- The position of the caller that has the lock. -/
  lock : Option Nat
  closers : List Closer

namespace ClosingSession

/-- A session that nobody has used or closed. -/
def fresh (sink : LogSink) : ClosingSession := ⟨.fresh sink, none, []⟩

/-- The single steps of a session with its callers. -/
inductive Step where
  /-- A further caller closes the fetcher, with what its block has raised. -/
  | arrive (body : Option Fault)
  /-- A caller gets on. The fault is what its call to close the transport raises, should it end
  now. -/
  | advance (closer : Nat) (fault : Option Fault)
  /-- The session takes a step that has nothing to do with closing. -/
  | other (st : Session.Step) (hbegin : st ≠ .beginClose) (hclose : st ≠ .closeTransport)

/-- Where a caller in some state gets, with the session and the lock as it leaves them. Nobody
gets past a lock that is taken. -/
def move (c : ClosingSession) (closer : Nat) (fault : Option Fault) (state : CloserState) :
    CloserState × Session × Option Nat :=
  match state with
  | .waiting =>
    match c.lock with
    | none => (.holding, c.session, some closer)
    | some _ => (.waiting, c.session, c.lock)
  | .holding => (if c.session.closed then .late else .first, c.session, c.lock)
  | .first => (.noted, { c.session with closed := true, closing := c.session.closing + 1 }, c.lock)
  | .late => (.turnedAway, c.session, none)
  | .noted => (.released, c.session, none)
  | .released =>
    (.announced, { c.session with events := c.session.events ++ [.closing] }, c.lock)
  | .announced =>
    (.calling,
      { c.session with closing := c.session.closing - 1, closes := c.session.closes + 1 }, c.lock)
  | .calling => (.closed fault, c.session, c.lock)
  | .turnedAway => (.turnedAway, c.session, c.lock)
  | .closed fault => (.closed fault, c.session, c.lock)

/-- A caller gets on. -/
def advance (c : ClosingSession) (closer : Nat) (fault : Option Fault) : ClosingSession :=
  match c.closers[closer]? with
  | none => c
  | some x =>
    let (state, session, lock) := c.move closer fault x.state
    ⟨session, lock, c.closers.set closer { x with state }⟩

/-- One step. -/
def step (c : ClosingSession) : Step → ClosingSession
  | .arrive body => { c with closers := c.closers ++ [⟨body, .waiting⟩] }
  | .advance closer fault => c.advance closer fault
  | .other st _ _ => { c with session := c.session.step st }

/-- A row of steps. -/
def steps (c : ClosingSession) (row : List Step) : ClosingSession := row.foldl step c

end ClosingSession

end InstanceLink
