import InstanceLink.Fetch.Wait

/-!
# Retrying

The rule that decides after each attempt whether to try again and how long to
pause, and the fetch that follows it. Only transient failures are retried; the
last attempt's own outcome is given.
-/

namespace InstanceLink

/-- A rule for retrying. -/
structure RetryRule where
  /-- The attempt after which no other follows. -/
  attempts : Nat
  /-- The least pause in seconds. -/
  leastPause : Nat
  /-- The greatest pause in seconds. -/
  greatestPause : Nat
  /-- Whether the last outcome itself is given when attempts run out. -/
  givesLast : Bool
  deriving DecidableEq, Repr

namespace RetryRule

/-- Three attempts, pauses from four to ten seconds. -/
def standard : RetryRule := ⟨3, 4, 10, true⟩

/-- Whether an attempt, counted from one, is the last. -/
def isLast (r : RetryRule) (attempt : Nat) : Bool := r.attempts ≤ attempt

/-- The pause after an attempt: doubling from one second, within the bounds. -/
def pause (r : RetryRule) (attempt : Nat) : Nat :=
  let doubled := if attempt ≤ r.greatestPause then Nat.pow 2 (attempt - 1) else r.greatestPause
  max r.leastPause (min r.greatestPause doubled)

/-- Every pause keeps to the bounds. -/
theorem pause_bounds (r : RetryRule) (h : r.leastPause ≤ r.greatestPause) (attempt : Nat) :
    r.leastPause ≤ r.pause attempt ∧ r.pause attempt ≤ r.greatestPause := by
  unfold pause
  dsimp only
  omega

/-- Whether an outcome calls for another attempt. -/
def retries {α : Type} : Except Fault α → Bool
  | .error (.connector error) => error.isTransient
  | _ => false

end RetryRule

/-- What retrying gives: the pauses made and the last outcome. -/
structure Retried where
  fetcher : Fetcher
  pauses : List Nat
  waited : Waited

namespace Fetcher

/-- Attempts from a given one on, with at most `fuel` further ones. -/
def retryFrom (rule : RetryRule) (name : InstanceName) (key : ClientKey) (timeout : Timeout)
    (fuel attempt : Nat) (x : Fetcher) : Retried :=
  let (x, waited) := x.fetchAndWait name key timeout
  match fuel, waited with
  | fuel + 1, some outcome =>
    if RetryRule.retries outcome && !rule.isLast attempt then
      let rest := retryFrom rule name key timeout fuel (attempt + 1) x
      { rest with pauses := rule.pause attempt :: rest.pauses }
    else ⟨x, [], waited⟩
  | _, _ => ⟨x, [], waited⟩

/-- Fetch with retries. -/
def fetchWithRetry (x : Fetcher) (name : InstanceName) (key : ClientKey) (timeout : Timeout) :
    Retried :=
  retryFrom RetryRule.standard name key timeout RetryRule.standard.attempts 1 x

/-- Attempts with a deadline end, as each of them does. -/
theorem exists_waited_retryFrom {timeout : Timeout} (h : timeout ≠ .unlimited) (rule : RetryRule)
    (name : InstanceName) (key : ClientKey) (fuel attempt : Nat) (x : Fetcher) :
    ∃ outcome, (retryFrom rule name key timeout fuel attempt x).waited = some outcome := by
  induction fuel generalizing attempt x with
  | zero => exact exists_waited_fetchAndWait h x name key
  | succ fuel ih =>
    obtain ⟨outcome, hwaited⟩ := exists_waited_fetchAndWait h x name key
    rw [retryFrom]
    simp only [hwaited]
    split
    · exact ih _ _
    · exact ⟨outcome, rfl⟩

end Fetcher

end InstanceLink
