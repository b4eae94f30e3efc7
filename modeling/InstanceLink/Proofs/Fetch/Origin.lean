import InstanceLink.Proofs.Fetch.Precedence

/-!
# Where faults and failures come from

A fault that disrupts the choice of a failure asks the program to stop, or tells that a failure has
no class, or was raised on asking a fault that a call ended with. A failure that two ends combine
to is terminal or transient unless it, or what led to it, was raised from outside.
-/

namespace InstanceLink

/-- A fault that counts as an error which cannot tell its classification is that error. -/
theorem eq_connector_of_classification {raised fault : Fault}
    (h : raised.counted.classification = .error fault) : raised = .connector raised.counted := by
  cases hc : raised.isConnector with
  | false =>
    exfalso
    rw [Fault.counted] at h
    split at h
    · contradiction
    · rw [classification_handle hc] at h
      contradiction
  | true =>
    rw [Fault.counted] at h ⊢
    split at h
    · contradiction
    next hcancelled =>
      rw [if_neg hcancelled]
      cases raised with
      | connector error => rfl
      | _ => contradiction

namespace Outcome

variable {α : Type} {o : Outcome α} {fault : Fault} {error : ConnectorError}

/-- A fault that an end passes on asks the program to stop, or was raised on asking the fault of
the end. -/
theorem Passes.origin (h : o.Passes fault) :
    (fault.isStop = true ∧ o = .raised fault) ∨
      ∃ raised, o = .raised raised ∧ raised.Raises fault := by
  cases h with
  | stop hs => exact .inl ⟨hs, rfl⟩
  | obstacle _ _ ho => exact .inr ⟨_, rfl, .classifying ho⟩

/-- A failure that an end counts as raises a fault in place of its classification only where it has
no class, or where it was raised itself. -/
theorem origin_of_classification (h : o.failure? = some error)
    (hf : error.classification = .error fault) :
    fault = .unclassified ∨ ∃ raised, o = .raised raised ∧ raised.Raises fault := by
  cases o with
  | returned value => contradiction
  | cancelled =>
    cases h
    contradiction
  | raised raised =>
    rw [failure?, Option.some.injEq] at h
    subst h
    have hsame := eq_connector_of_classification hf
    refine (ConnectorErrorOf.classification_eq_error hf).imp_right fun hr => ⟨raised, rfl, ?_⟩
    rw [hsame]
    exact hr

end Outcome

variable {m : Outcome MetadataResponse} {c : Outcome CertificateResponse} {error : ConnectorError}
  {fault : Fault}

/-- One of two calls ended with a fault. -/
def EndsWith (m : Outcome MetadataResponse) (c : Outcome CertificateResponse)
    (raised : Fault) : Prop :=
  m = .raised raised ∨ c = .raised raised

/-- A fault that disrupts the choice asks the program to stop, tells that a failure has no class,
or was raised on asking a fault that a call ended with. -/
theorem Disrupts.origin (h : Disrupts m c fault) :
    (fault.isStop = true ∧ EndsWith m c fault) ∨ fault = .unclassified ∨
      ∃ raised, EndsWith m c raised ∧ raised.Raises fault := by
  cases h with
  | metadata h =>
    rcases h.origin with ⟨hs, hm⟩ | ⟨raised, hm, hr⟩
    · exact .inl ⟨hs, .inl hm⟩
    · exact .inr (.inr ⟨raised, .inl hm, hr⟩)
  | certificate _ h =>
    rcases h.origin with ⟨hs, hc⟩ | ⟨raised, hc, hr⟩
    · exact .inl ⟨hs, .inr hc⟩
    · exact .inr (.inr ⟨raised, .inr hc, hr⟩)
  | choosing _ _ herror hfault _ =>
    right
    rcases mem_countedFailures.mp (List.mem_of_getElem? herror) with he | he
    · rcases Outcome.origin_of_classification he hfault with hu | ⟨raised, hm, hr⟩
      · exact .inl hu
      · exact .inr ⟨raised, .inl hm, hr⟩
    · rcases Outcome.origin_of_classification he hfault with hu | ⟨raised, hc, hr⟩
      · exact .inl hu
      · exact .inr ⟨raised, .inr hc, hr⟩

/-- A connector error that disrupts the choice was raised on asking a fault that a call ended
with. -/
theorem Disrupts.origin_connector (h : Disrupts m c (.connector error)) :
    ∃ raised, EndsWith m c raised ∧ raised.Raises (.connector error) := by
  rcases h.origin with ⟨hs, _⟩ | hu | hr
  · contradiction
  · contradiction
  · exact hr

/-- A failure that two ends combine to and that cannot be written was raised itself, or on asking a
fault that a call ended with; so was the fault that writing it raises. -/
theorem origin_of_textFault? (h : combine m c = .failed error)
    (ht : error.textFault? = some fault) :
    ∃ raised, EndsWith m c raised ∧ Relation.TransGen Fault.Raises raised fault := by
  have hwriting : (Fault.connector error).Raises fault := .writing ht
  have hown : error.own?.isSome = true := hwriting.own?_isSome
  rcases combine_eq_failed_cases h with ⟨a, b, cause, _, _, ha, rfl⟩ | hd | ⟨hs, _⟩
  · rcases assemble_error ha with rfl | ⟨refusal, rfl⟩ <;> contradiction
  · obtain ⟨raised, hends, hr⟩ := hd.origin_connector
    exact ⟨raised, hends, .tail (.single hr) hwriting⟩
  · rcases mem_countedFailures.mp (surfacedAmong_spec hs).1 with he | he
    · exact ⟨_, .inl (Outcome.raised_of_own he hown), .single hwriting⟩
    · exact ⟨_, .inr (Outcome.raised_of_own he hown), .single hwriting⟩

/-- What a call ends with that was answered a fault leads only to what the fault itself leads to,
or is the failure that it is handled to. -/
theorem leadsTo_of_raisedFor {cause : Fault} (h : (Call.raisedFor fault).LeadsTo cause) :
    (fault.isConnector = false ∧ cause = .connector (handle fault)) ∨ fault.LeadsTo cause := by
  unfold Call.raisedFor at h
  split at h
  · exact .inr h
  · cases hc : classified fault with
    | error cause =>
      simp only [hc] at h
      exact .inr (.head (.classifying (classified_eq_error_iff.mp hc)) h)
    | ok handled =>
      simp only [hc] at h
      obtain ⟨_, rfl⟩ := classified_eq_ok_iff.mp hc
      cases hf : fault.isConnector with
      | true =>
        cases fault with
        | connector known => exact .inr h
        | _ => contradiction
      | false =>
        have hknown : (Fault.connector (handle fault)).own? = none := by
          simp only [Fault.own?, ConnectorErrorOf.own?, sort_handle hf]
        exact .inl ⟨rfl, h.eq_of_known hknown⟩

namespace Fetch

variable {row : List Session.Step} {i : Nat} {f : Fetch}

/-- A fault that leaves the join of a fetch asks the program to stop, or tells that a failure has no
class, or was raised on asking a fault that a call ended with, or by the log call for the failure
that the ends combine to. -/
theorem origin_of_entry (h : f.entry = some (.escaped fault)) :
    (fault.isStop = true ∧ (f.metadata.outcome? = some (.raised fault) ∨
        f.certificate.outcome? = some (.raised fault))) ∨ fault = .unclassified ∨
      (∃ raised, (f.metadata.outcome? = some (.raised raised) ∨
          f.certificate.outcome? = some (.raised raised)) ∧
        Relation.TransGen Fault.Raises raised fault) ∨
      ∃ error, f.combined? = some (.failed error) ∧
        f.sink.fault? (FetchEvent.failureRecord f.name error) = some fault := by
  obtain ⟨worked, hw, ha⟩ := joined?_eq_some_iff.mp (entry_eq_some_iff.mp h).2
  obtain ⟨m, c, hm, hc, rfl⟩ := combined?_eq_some_iff.mp hw
  have hends : ∀ raised, EndsWith m c raised →
      f.metadata.outcome? = some (.raised raised) ∨
        f.certificate.outcome? = some (.raised raised) := by
    rintro raised (rfl | rfl)
    · exact .inl hm
    · exact .inr hc
  rcases announce_eq_escaped_iff.mp ha with hescaped | ⟨error, hfailed, hfault⟩
  · rcases (combine_eq_escaped_iff.mp hescaped).1.origin with ⟨hs, hstop⟩ | hu |
      ⟨raised, hraised, hr⟩
    · exact .inl ⟨hs, hends fault hstop⟩
    · exact .inr (.inl hu)
    · exact .inr (.inr (.inl ⟨raised, hends raised hraised, .single hr⟩))
  · rcases Option.or_eq_some_iff.mp hfault with ht | ⟨_, hlog⟩
    · obtain ⟨raised, hraised, hr⟩ := origin_of_textFault? hfailed ht
      exact .inr (.inr (.inl ⟨raised, hends raised hraised, hr⟩))
    · exact .inr (.inr (.inr ⟨error, by rw [hw, hfailed], hlog⟩))

end Fetch

end InstanceLink
