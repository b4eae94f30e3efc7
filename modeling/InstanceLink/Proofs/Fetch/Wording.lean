import InstanceLink.Proofs.Fetch.Closing
import InstanceLink.Proofs.Fetch.Verdict

/-!
# Failures that can be written

A failure is written when it is announced, before it becomes the result of its fetch. Writing the
failure that a caller is given therefore raises no fault, whatever class of its own it has: a fetch
whose failure cannot be written stays open, and its caller is told of the deadline instead.
-/

namespace InstanceLink

/-- What keeps a wait from being made is that it is too long. -/
theorem Timeout.unrepresentable?_eq_some {timeout : Timeout} {fault : Fault}
    (h : timeout.unrepresentable? = some fault) : ∃ whole, fault = .distantDeadline whole := by
  unfold unrepresentable? at h
  split at h
  · contradiction
  · split at h
    · exact ⟨_, (Option.some.inj h).symm⟩
    · contradiction
  · exact ⟨_, (Option.some.inj h).symm⟩
  · dsimp only at h
    split at h
    · exact ⟨_, (Option.some.inj h).symm⟩
    · contradiction
  · contradiction

namespace Fetcher

variable {x : Fetcher} {timeout : Timeout} {name : InstanceName} {key : ClientKey} {fault : Fault}
  {error : ConnectorError}

/-- What keeps a fetch from being made is no classified failure. -/
theorem isConnector_of_refusal (h : x.session.refusal? name = some fault) :
    fault.isConnector = false := by
  rw [Session.refusal?, Option.or_eq_some_iff] at h
  rcases h with hlog | ⟨-, hshut⟩
  · obtain ⟨cause, rfl⟩ := LogSink.exists_cause_of_fault? hlog
    rfl
  · split at hshut
    · cases hshut
      rfl
    · contradiction

/-- What goes beyond an executor's own handling of notifications is no classified failure. -/
theorem isConnector_of_stopping {raised : Option Fault} (h : stopping raised = some fault) :
    fault.isConnector = false := by
  obtain ⟨-, hstop⟩ := Option.filter_eq_some_iff.mp h
  cases fault with
  | connector error => contradiction
  | _ => rfl

/-- What cuts two calls short that run at once goes beyond the executor's own handling. -/
theorem exists_stopping_runInline (x : Fetcher) (fetch : Nat) :
    ∃ raised, (x.runInline fetch).2 = stopping raised := by
  simp only [runInline]
  split
  · rename_i hstop
    exact ⟨_, hstop.symm⟩
  · exact ⟨_, rfl⟩

/-- What keeps a fetch from being given back is no classified failure. -/
theorem isConnector_of_fetch_eq_error (h : (x.fetch name key).2 = .error fault) :
    fault.isConnector = false := by
  cases hrefusal : x.session.refusal? name with
  | some other =>
    simp only [fetch, hrefusal, Except.error.injEq] at h
    exact h ▸ isConnector_of_refusal hrefusal
  | none =>
    simp only [fetch, hrefusal] at h
    split at h
    · contradiction
    · contradiction
    · cases hrun : ((x.take [.fetch name key]).runInline x.session.fetches.length).2 with
      | none =>
        rw [hrun] at h
        contradiction
      | some other =>
        rw [hrun] at h
        cases h
        obtain ⟨raised, hraised⟩ :=
          exists_stopping_runInline (x.take [.fetch name key]) x.session.fetches.length
        exact isConnector_of_stopping (hraised.symm.trans hrun)

/-- The failure that a fetch of a run holds can be written. -/
theorem Advances.textFault?_of_failed {executor : Executor} {client : AdminClient}
    {sink : LogSink} (h : (fresh executor client sink).Advances x) {i : Nat}
    (hr : x.result i = .failed error) : error.textFault? = none := by
  obtain ⟨row, hrow⟩ := h
  cases hf : x.session.fetches[i]? with
  | none =>
    rw [result, hf] at hr
    contradiction
  | some f =>
    rw [result_of_getElem? hf] at hr
    rw [hrow] at hf
    exact Fetch.textFault?_of_announced ((Session.coherent_of_steps hf).announceFault?_of_failed hr)

/-- The failure that a caller of a run is given can be written. -/
theorem Advances.textFault?_of_wait {executor : Executor} {client : AdminClient} {sink : LogSink}
    (h : (fresh executor client sink).Advances x) {i : Nat}
    (hwaited : (x.wait i timeout).2 = some (.error (.connector error))) :
    error.textFault? = none := by
  rw [wait] at hwaited
  split at hwaited
  · rename_i answer hanswer
    have hheeded : timeout.heeded answer = .error (.connector error) := Option.some.inj hwaited
    cases hresult : x.result i with
    | pending =>
      rw [hresult] at hanswer
      contradiction
    | bundle info =>
      rw [hresult] at hanswer
      cases hanswer
      contradiction
    | cancelled =>
      rw [hresult] at hanswer
      cases hanswer
      rw [Timeout.heeded_of_not_isDeadline rfl] at hheeded
      cases hheeded
    | failed held =>
      rw [hresult] at hanswer
      cases hanswer
      rw [Timeout.heeded] at hheeded
      split at hheeded
      · cases hheeded
        rfl
      · cases hheeded
        exact h.textFault?_of_failed hresult
  · split at hwaited
    · rename_i hlong
      obtain ⟨whole, rfl⟩ := Timeout.unrepresentable?_eq_some hlong
      cases hwaited
    · split at hwaited
      · contradiction
      · cases hwaited
        rfl

/-- The failure that a caller of a fetch in a run is given can be written. -/
theorem Advances.textFault?_of_fetchAndWait {executor : Executor} {client : AdminClient}
    {sink : LogSink} (h : (fresh executor client sink).Advances x)
    (hwaited : (x.fetchAndWait name key timeout).2 = some (.error (.connector error))) :
    error.textFault? = none := by
  rw [fetchAndWait] at hwaited
  split at hwaited
  · rename_i hfetch
    cases hwaited
    have hconnector := isConnector_of_fetch_eq_error (Prod.ext_iff.mp hfetch).2
    contradiction
  · rename_i y position hfetch
    have hy : (fresh executor client sink).Advances y := by
      have hstarted := h.trans (x.advances_fetch name key)
      rwa [hfetch] at hstarted
    exact hy.textFault?_of_wait hwaited

/-- Attempts in a row are steps of a run. -/
theorem advances_afterAttempts (x : Fetcher) (name : InstanceName) (key : ClientKey)
    (timeout : Timeout) (n : Nat) : x.Advances (x.afterAttempts name key timeout n) := by
  obtain ⟨-, row, -, hrow⟩ := x.used_afterAttempts name key timeout n
  exact ⟨row, hrow⟩

/-- The failure that a caller of a fetch with retries is given can be written. -/
theorem textFault?_of_fetchWithRetry {executor : Executor} {client : AdminClient} {sink : LogSink}
    (hwaited : ((fresh executor client sink).fetchWithRetry name key timeout).waited =
      some (.error (.connector error))) : error.textFault? = none := by
  obtain ⟨n, -, hretried, -⟩ :=
    (fresh executor client sink).fetchWithRetry_eq name key timeout
  rw [hretried] at hwaited
  exact (advances_afterAttempts _ name key timeout n).textFault?_of_fetchAndWait hwaited

end Fetcher

end InstanceLink
