import InstanceLink.Proofs.Failure.Asking
import InstanceLink.Proofs.Fetch.Ending
import InstanceLink.Proofs.Fetch.Joining

/-!
# Which failure a fetch ends with

Every end of a call but an answer counts as one failure. Where no fault disrupts the choice,
the fetch fails with the first terminal failure in the fixed order of the calls, or else
with the first of all; two answers that cannot be assembled fail with the fault of the
assembly. Neither depends on which call ended first.
-/

namespace InstanceLink

/-- A report of cancelled work counts as no terminal failure; any other fault counts as it is
classified. -/
theorem Fault.countsTerminal_counted (fault : Fault) :
    fault.counted.countsTerminal = (!fault.isCancelled && fault.isTerminal) := by
  rw [counted]
  cases hc : fault.isCancelled with
  | true => rfl
  | false => exact countsTerminal_handle fault

/-- A fault of a known class that a call was answered counts as that fault handled: wrapping it
once more on the way to the join changes nothing. -/
theorem counted_raisedFor {fault : Fault} (h : fault.own? = none) :
    (Call.raisedFor fault).counted = handle fault := by
  unfold Call.raisedFor
  split
  next hs =>
    cases fault with
    | outside family name arguments =>
      cases family with
      | stop => rfl
      | _ => contradiction
    | _ => contradiction
  next hs =>
    have ho : fault.obstacle? = none := by
      cases hob : fault.obstacle? with
      | none => rfl
      | some cause =>
        have hown := (Fault.Raises.classifying hob).own?_isSome
        rw [h] at hown
        contradiction
    have hcancelled : (Fault.connector (handle fault)).isCancelled = false := by
      have hknown : (handle fault).own? = none := by
        cases hc : fault.isConnector with
        | false =>
          rw [ConnectorErrorOf.own?, sort_handle hc]
        | true =>
          cases fault with
          | connector error => exact h
          | _ => contradiction
      simp only [Fault.isCancelled, Fault.own?, hknown, Option.any_none]
    rw [classified_eq_ok_iff.mpr ⟨ho, rfl⟩]
    simp only [Fault.counted, hcancelled, Bool.false_eq_true, if_false]
    rfl

namespace Outcome

variable {α : Type} {o : Outcome α} {error : ConnectorError}

/-- Whether an end is a failure that counts as terminal: cancelled work never does. -/
def isTerminal : Outcome α → Bool
  | .raised fault => !fault.isCancelled && fault.isTerminal
  | .returned _ | .cancelled => false

/-- Whether an end is an answer, a cancellation, or a fault that can be reported. -/
def isReportable : Outcome α → Bool
  | .raised fault => fault.isReportable
  | .returned _ | .cancelled => true

/-- An end that can be reported passes no fault on. -/
theorem not_passes_of_isReportable (h : o.isReportable = true) (fault : Fault) :
    ¬o.Passes fault := by
  intro hp
  cases hp with
  | stop hs =>
    rw [Fault.isStop_of_isReportable h] at hs
    contradiction
  | obstacle _ _ ho =>
    rw [Fault.obstacle?_of_isReportable h] at ho
    contradiction

/-- An end counts as a terminal failure exactly when it counts as terminal. -/
theorem countsTerminal_failure? (h : o.failure? = some error) :
    error.countsTerminal = o.isTerminal := by
  cases o with
  | returned value => contradiction
  | cancelled =>
    cases h
    rfl
  | raised fault =>
    cases h
    exact fault.countsTerminal_counted

/-- An end that can be reported counts as a failure that tells its classification and can be
written. -/
theorem failure?_of_isReportable (hr : o.isReportable = true) (h : o.failure? = some error) :
    (∃ terminal, error.classification = .ok terminal) ∧ error.textFault? = none := by
  cases o with
  | returned value => contradiction
  | cancelled =>
    cases h
    exact ⟨⟨false, rfl⟩, rfl⟩
  | raised fault =>
    rw [failure?, Option.some.injEq, Fault.counted] at h
    subst h
    split
    · exact ⟨⟨false, rfl⟩, rfl⟩
    · exact Fault.handle_of_isReportable hr

end Outcome

variable {m : Outcome MetadataResponse} {c : Outcome CertificateResponse} {error : ConnectorError}

/-- No fault disrupts the choice between two ends that can be reported. -/
theorem not_disrupts_of_isReportable (hm : m.isReportable = true) (hc : c.isReportable = true)
    (fault : Fault) : ¬Disrupts m c fault := by
  intro hd
  cases hd with
  | metadata hp => exact Outcome.not_passes_of_isReportable hm fault hp
  | certificate _ hp => exact Outcome.not_passes_of_isReportable hc fault hp
  | @choosing _ _ position error herror hfault _ =>
    have htells : ∃ terminal, error.classification = .ok terminal := by
      rcases mem_countedFailures.mp (List.mem_of_getElem? herror) with he | he
      · exact (Outcome.failure?_of_isReportable hm he).1
      · exact (Outcome.failure?_of_isReportable hc he).1
    obtain ⟨terminal, ht⟩ := htells
    rw [ht] at hfault
    contradiction

/-- The failure of the metadata call is surfaced unless that of the certificate call is
terminal. -/
theorem combine_of_metadata_failure (hm : m.isReportable = true) (hc : c.isReportable = true)
    (he : m.failure? = some error) (ht : c.isTerminal = false) : combine m c = .failed error := by
  have hfirst : countedFailures m c = error :: c.failure?.toList := by
    rw [countedFailures, he]
    rfl
  obtain ⟨error', hcombine, hs, _⟩ :=
    combine_eq_surfaced (by simp [hfirst]) (not_disrupts_of_isReportable hm hc)
  have hrest : ∀ e ∈ c.failure?.toList, ¬e.countsTerminal = true := by
    intro e hmem hk
    rw [Outcome.countsTerminal_failure? (Option.mem_toList.mp hmem), ht] at hk
    contradiction
  have hsurfaced : surfacedAmong (countedFailures m c) = some error := by
    rw [hfirst, surfacedAmong, List.find?_cons]
    split
    · rfl
    · rw [List.find?_eq_none.mpr hrest]
      rfl
  rw [hs, Option.some.injEq] at hsurfaced
  rw [hcombine, hsurfaced]

/-- The failure of the certificate call is surfaced where the metadata call returned. -/
theorem combine_of_certificate_failure {a : MetadataResponse} (hc : c.isReportable = true)
    (he : c.failure? = some error) : combine (.returned a) c = .failed error := by
  have hone : countedFailures (.returned a) c = [error] := by
    rw [countedFailures, he]
    rfl
  obtain ⟨error', hcombine, hs, _⟩ := combine_eq_surfaced (m := .returned a) (by simp [hone])
    (not_disrupts_of_isReportable rfl hc)
  have hmem := (surfacedAmong_spec hs).1
  rw [hone, List.mem_singleton] at hmem
  rw [hcombine, hmem]

/-- A failure of a class of its own that an end counts as was raised as it is. -/
theorem Outcome.raised_of_own {α : Type} {o : Outcome α} {error : ConnectorError}
    (h : o.failure? = some error) (hown : error.own?.isSome = true) :
    o = .raised (.connector error) := by
  cases o with
  | returned value => contradiction
  | cancelled =>
    cases h
    contradiction
  | raised fault =>
    rw [failure?, Option.some.injEq, Fault.counted] at h
    subst h
    split at hown
    · contradiction
    next hc =>
      rw [if_neg hc]
      cases hf : fault.isConnector with
      | false =>
        rw [ConnectorErrorOf.own?, sort_handle hf] at hown
        contradiction
      | true =>
        cases fault with
        | connector error => rfl
        | _ => contradiction

namespace Fetch

variable {row : List Session.Step} {i : Nat} {f : Fetch}

end Fetch

end InstanceLink
