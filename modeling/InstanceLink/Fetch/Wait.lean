import InstanceLink.Fetch.Executor

/-!
# Waiting for a fetch

The blocking form of a fetch. A result that is settled by the deadline is given as
it is; otherwise the fetch is cancelled and the deadline is reported as a failure
of its own. A failure that is itself the passing of a deadline is taken for the caller's.
Without a deadline an open result is waited for without end.
-/

namespace InstanceLink

/-- How long to wait. -/
inductive Timeout where
  | unlimited
  | whole (seconds : Int)
  | decimal (seconds : Binary64)
  deriving DecidableEq, Repr

namespace Timeout

/-- The text of a timeout, as messages write it. -/
def text : Timeout → String
  | .unlimited => "None"
  | .whole seconds => toString seconds
  | .decimal seconds => seconds.text

/-- The number of nanoseconds from which on a wait cannot be represented. -/
def limit : Nat := 0x8000000000000000

/-- The fault of a wait too long to be represented. -/
def unrepresentable? : Timeout → Option Fault
  | .unlimited => none
  | .whole seconds =>
    if (limit : Int) ≤ seconds * 1000000000 then some (.distantDeadline true) else none
  | .decimal (.infinite false) => some (.distantDeadline false)
  | .decimal (.finite false mantissa exponent) =>
    let (num, den) := Binary64.ratio mantissa exponent
    if limit * den ≤ num * 1000000000 then some (.distantDeadline false) else none
  | .decimal _ => none

end Timeout

/-- The failure of a fetch whose deadline passed, over the fault that told so. -/
def deadlineFailure (timeout : Timeout) (cause : Fault) : ConnectorError :=
  ⟨.known .transient, failureMessage ("timed out after " ++ timeout.text ++ " seconds"),
    .deadlineExceeded, some cause, true⟩

/-- What a settled result gives its caller. -/
def FetchResult.answer? : FetchResult → Option (Except Fault ConnectionInfo)
  | .pending => none
  | .bundle info => some (.ok info)
  | .failed error => some (.error (.connector error))
  | .cancelled => some (.error .cancelledWork)

/-- What waiting gives; nothing when it never ends. -/
abbrev Waited := Option (Except Fault ConnectionInfo)

/-- What a caller makes of an answer that came by its deadline. -/
def Timeout.heeded (timeout : Timeout) : Except Fault ConnectionInfo → Except Fault ConnectionInfo
  | .error fault =>
    if fault.isDeadline then .error (.connector (deadlineFailure timeout fault)) else .error fault
  | .ok info => .ok info

namespace Timeout

variable {timeout : Timeout} {fault : Fault} {answer : Except Fault ConnectionInfo}

/-- A bundle is heeded as it is, and so is nothing else. -/
theorem heeded_eq_ok_iff {info : ConnectionInfo} :
    timeout.heeded answer = .ok info ↔ answer = .ok info := by
  cases answer with
  | ok other => rfl
  | error fault =>
    rw [heeded]
    split <;> exact iff_of_false nofun nofun

/-- A failure that is no passing of a deadline is heeded as it is. -/
theorem heeded_of_not_isDeadline (h : fault.isDeadline = false) :
    timeout.heeded (.error fault) = .error fault := by
  rw [heeded, h]
  rfl

end Timeout

namespace Fetcher

/-- The result of a fetch as it stands. -/
def result (x : Fetcher) (fetch : Nat) : FetchResult :=
  (x.session.fetches[fetch]?).elim .pending Fetch.result

/-- Wait for a fetch that no further step will settle. -/
def wait (x : Fetcher) (fetch : Nat) (timeout : Timeout) : Fetcher × Waited :=
  match (x.result fetch).answer? with
  | some answer => (x, some (timeout.heeded answer))
  | none =>
    match timeout.unrepresentable? with
    | some fault => (x, some (.error fault))
    | none =>
      if timeout = .unlimited then (x, none)
      else (x.cancel fetch, some (.error (.connector (deadlineFailure timeout .deadline))))

/-- Fetch and wait. -/
def fetchAndWait (x : Fetcher) (name : InstanceName) (key : ClientKey) (timeout : Timeout) :
    Fetcher × Waited :=
  match x.fetch name key with
  | (x, .error fault) => (x, some (.error fault))
  | (x, .ok position) => x.wait position timeout

variable {timeout : Timeout} (h : timeout ≠ .unlimited)

include h

/-- A wait with a deadline ends. -/
theorem exists_waited_wait (x : Fetcher) (fetch : Nat) :
    ∃ outcome, (x.wait fetch timeout).2 = some outcome := by
  rw [wait]
  split
  · exact ⟨_, rfl⟩
  · split
    · exact ⟨_, rfl⟩
    · exact ⟨_, by rw [if_neg h]⟩

/-- A fetch that is waited for with a deadline ends. -/
theorem exists_waited_fetchAndWait (x : Fetcher) (name : InstanceName) (key : ClientKey) :
    ∃ outcome, (x.fetchAndWait name key timeout).2 = some outcome := by
  rw [fetchAndWait]
  split
  · exact ⟨_, rfl⟩
  · exact exists_waited_wait h _ _

end Fetcher

end InstanceLink
