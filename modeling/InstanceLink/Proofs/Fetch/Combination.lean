import InstanceLink.Proofs.Failure.Classification
import InstanceLink.Proofs.Fetch.Assembly

/-!
# What two ends combine to

Two calls that are over combine to a bundle, to the failure to surface among those that the ends
count as, or to what a fault makes of the join that disrupts the choice. A fault disrupts it when a
call asked the program to stop, when asking a call's own fault for its codes or its text raised it,
or when a failure that is met before any terminal one raised it in place of its classification. The
join is left by such a fault, unless that is a connector error itself.
-/

namespace InstanceLink

/-- The failure that a raised fault counts as: that of a cancellation for a report of cancelled
work, and the handled fault otherwise. -/
def Fault.counted (fault : Fault) : ConnectorError :=
  if fault.isCancelled = true then cancelledFailure fault else handle fault

namespace Joined

/-- A connector error that is raised on the way to a join is what the join fails with. -/
theorem ofFault_eq_failed_iff {fault : Fault} {error : ConnectorError} :
    ofFault fault = .failed error ↔ fault = .connector error := by
  cases fault <;> simp [ofFault]

/-- Any other fault leaves the join. -/
theorem ofFault_eq_escaped_iff {raised fault : Fault} :
    ofFault raised = .escaped fault ↔ raised = fault ∧ fault.isConnector = false := by
  cases raised with
  | connector error =>
    refine iff_of_false nofun ?_
    rintro ⟨rfl, h⟩
    contradiction
  | _ =>
    simp only [ofFault, escaped.injEq]
    refine ⟨?_, And.left⟩
    rintro rfl
    exact ⟨rfl, rfl⟩

/-- No fault makes a bundle. -/
theorem ofFault_ne_bundle (fault : Fault) (info : ConnectionInfo) :
    ofFault fault ≠ .bundle info := by
  cases fault <;> nofun

end Joined

namespace Outcome

variable {α : Type} {o : Outcome α} {fault : Fault}

/-- The failure that an end counts as: none for an answer, that of a cancellation for cancelled
work, and what its fault counts as otherwise. -/
def failure? : Outcome α → Option ConnectorError
  | .returned _ => none
  | .cancelled => some (cancelledFailure .cancelledWork)
  | .raised fault => some fault.counted

/-- The fault that an end passes on instead of counting as a failure: one that asks the program to
stop, or the one that asking its own fault for its codes or its text raises. -/
inductive Passes : Outcome α → Fault → Prop where
  | stop {fault : Fault} (h : fault.isStop = true) : Passes (.raised fault) fault
  | obstacle {raised cause : Fault} (hstop : raised.isStop = false)
      (hcancelled : raised.isCancelled = false) (h : raised.obstacle? = some cause) :
      Passes (.raised raised) cause

/-- Only an answer counts as no failure. -/
theorem failure?_eq_none_iff : o.failure? = none ↔ ∃ value, o = .returned value := by
  cases o <;> simp [failure?]

/-- An end that passes a fault on contributes no failure. -/
theorem failure_of_passes (h : o.Passes fault) : o.failure = .error fault := by
  cases h with
  | stop hs => exact if_pos hs
  | obstacle hs hc ho =>
    rw [failure, if_neg (Bool.eq_false_iff.mp hs), if_neg (Bool.eq_false_iff.mp hc),
      classified_eq_error_iff.mpr ho]
    rfl

/-- Any other end contributes the failure that it counts as. -/
theorem failure_of_not_passes (h : ∀ fault, ¬o.Passes fault) : o.failure = .ok o.failure? := by
  cases o with
  | returned value => rfl
  | cancelled => rfl
  | raised fault =>
    have hs : ¬fault.isStop = true := fun hs => h fault (.stop hs)
    rw [failure, if_neg hs, failure?, Fault.counted]
    by_cases hc : fault.isCancelled = true
    · rw [if_pos hc, if_pos hc]
    · rw [if_neg hc, if_neg hc]
      have ho : fault.obstacle? = none := Option.eq_none_iff_forall_not_mem.mpr fun cause ho =>
        h cause (.obstacle (Bool.eq_false_iff.mpr hs) (Bool.eq_false_iff.mpr hc) ho)
      rw [classified_eq_ok_iff.mpr ⟨ho, rfl⟩]
      rfl

end Outcome

/-- The failures that two ends count as, that of the metadata call first. -/
def countedFailures (m : Outcome MetadataResponse) (c : Outcome CertificateResponse) :
    List ConnectorError :=
  m.failure?.toList ++ c.failure?.toList

/-- A fault disrupts the choice of the failure to report: an end passes it on, that of the metadata
call before the other; or it is raised in place of a classification, by a failure that all those
before it do not outdo. -/
inductive Disrupts (m : Outcome MetadataResponse) (c : Outcome CertificateResponse)
    (fault : Fault) : Prop where
  | metadata (h : m.Passes fault)
  | certificate (hm : ∀ other, ¬m.Passes other) (h : c.Passes fault)
  | choosing (hm : ∀ other, ¬m.Passes other) (hc : ∀ other, ¬c.Passes other) {position : Nat}
      {error : ConnectorError} (herror : (countedFailures m c)[position]? = some error)
      (hfault : error.classification = .error fault)
      (hbefore : ∀ e ∈ (countedFailures m c).take position, e.classification = .ok false)

variable {m : Outcome MetadataResponse} {c : Outcome CertificateResponse} {error : ConnectorError}
  {fault : Fault}

/-- A failure that two ends count as is that of one of them. -/
theorem mem_countedFailures :
    error ∈ countedFailures m c ↔ m.failure? = some error ∨ c.failure? = some error := by
  simp [countedFailures]

/-- Two ends count as no failure exactly when both calls returned. -/
theorem countedFailures_eq_nil_iff :
    countedFailures m c = [] ↔ ∃ a b, m = .returned a ∧ c = .returned b := by
  rw [countedFailures, List.append_eq_nil_iff, Option.toList_eq_nil_iff, Option.toList_eq_nil_iff,
    Outcome.failure?_eq_none_iff, Outcome.failure?_eq_none_iff]
  constructor
  · rintro ⟨⟨a, ha⟩, b, hb⟩
    exact ⟨a, b, ha, hb⟩
  · rintro ⟨a, b, ha, hb⟩
    exact ⟨⟨a, ha⟩, b, hb⟩

/-- Unless both calls returned, the failures of both decide. -/
theorem combine_of_counted (h : countedFailures m c ≠ []) :
    combine m c =
      match failures m c with
      | .error fault => .ofFault fault
      | .ok errors =>
        match representative errors with
        | .error fault => .ofFault fault
        | .ok (_, error) => .failed error := by
  cases m with
  | returned a =>
    cases c with
    | returned b => exact absurd rfl h
    | raised fault => rfl
    | cancelled => rfl
  | raised fault => rfl
  | cancelled => rfl

/-- Unless an end passes a fault on, the failures are those that the ends count as. -/
theorem failures_eq (hm : ∀ other, ¬m.Passes other) (hc : ∀ other, ¬c.Passes other) :
    failures m c = .ok (countedFailures m c) := by
  rw [failures, Outcome.failure_of_not_passes hm, Outcome.failure_of_not_passes hc]
  rfl

/-- Two answers disrupt nothing. -/
theorem Disrupts.countedFailures_ne_nil (h : Disrupts m c fault) : countedFailures m c ≠ [] := by
  intro hnil
  obtain ⟨a, b, rfl, rfl⟩ := countedFailures_eq_nil_iff.mp hnil
  cases h with
  | metadata h => contradiction
  | certificate _ h => contradiction
  | choosing _ _ herror _ _ => contradiction

/-- A fault that disrupts the choice decides the join. -/
theorem Disrupts.combine_eq (h : Disrupts m c fault) : combine m c = .ofFault fault := by
  have hne := h.countedFailures_ne_nil
  rw [combine_of_counted hne]
  cases h with
  | metadata h =>
    have hf : failures m c = .error fault := by
      rw [failures, Outcome.failure_of_passes h]
      rfl
    rw [hf]
  | certificate hm h =>
    have hf : failures m c = .error fault := by
      rw [failures, Outcome.failure_of_not_passes hm, Outcome.failure_of_passes h]
      rfl
    rw [hf]
  | choosing hm hc herror hfault hbefore =>
    have hr := (representative_eq_error_iff hne).mpr ⟨_, _, herror, hfault, hbefore⟩
    simp only [failures_eq hm hc, hr]

/-- Two ends of which one counts as a failure fail with the failure to surface, unless a fault
disrupts the choice. -/
theorem combine_eq_surfaced (hne : countedFailures m c ≠ []) (h : ∀ fault, ¬Disrupts m c fault) :
    ∃ error, combine m c = .failed error ∧ surfacedAmong (countedFailures m c) = some error ∧
      ∃ terminal, error.classification = .ok terminal := by
  have hm : ∀ other, ¬m.Passes other := fun other hp => h other (.metadata hp)
  have hc : ∀ other, ¬c.Passes other := fun other hp => h other (.certificate hm hp)
  rcases representative_cases hne with ⟨position, error, hr, hs, _, ht⟩ | ⟨j, e, cause, _, he, hf, hb⟩
  · refine ⟨error, ?_, hs, ht⟩
    simp only [combine_of_counted hne, failures_eq hm hc, hr]
  · exact absurd (.choosing hm hc he hf hb) (h cause)

/-- Answers are joined without a fault leaving the join. -/
theorem joinAnswers_ne_escaped (a : MetadataResponse) (b : CertificateResponse) (fault : Fault) :
    joinAnswers a b ≠ .escaped fault := by
  unfold joinAnswers
  cases assemble a b with
  | ok info => nofun
  | error fault => nofun

/-- A fault leaves the join exactly when it is no connector error and disrupts the choice. -/
theorem combine_eq_escaped_iff :
    combine m c = .escaped fault ↔ Disrupts m c fault ∧ fault.isConnector = false := by
  constructor
  · intro h
    by_cases hd : ∃ raised, Disrupts m c raised
    · obtain ⟨raised, hd⟩ := hd
      rw [hd.combine_eq] at h
      obtain ⟨rfl, hc⟩ := Joined.ofFault_eq_escaped_iff.mp h
      exact ⟨hd, hc⟩
    · by_cases hne : countedFailures m c = []
      · obtain ⟨a, b, rfl, rfl⟩ := countedFailures_eq_nil_iff.mp hne
        exact absurd h (joinAnswers_ne_escaped a b fault)
      · obtain ⟨error, he, _⟩ := combine_eq_surfaced hne fun raised hr => hd ⟨raised, hr⟩
        rw [he] at h
        contradiction
  · rintro ⟨hd, hc⟩
    rw [hd.combine_eq]
    exact Joined.ofFault_eq_escaped_iff.mpr ⟨rfl, hc⟩

/-- A bundle comes from two answers that assemble, and from nothing else. -/
theorem combine_eq_bundle_iff {info : ConnectionInfo} :
    combine m c = .bundle info ↔
      ∃ a b, m = .returned a ∧ c = .returned b ∧ assemble a b = .ok info := by
  constructor
  · intro h
    by_cases hne : countedFailures m c = []
    · obtain ⟨a, b, rfl, rfl⟩ := countedFailures_eq_nil_iff.mp hne
      rw [combine_returned, joinAnswers] at h
      cases ha : assemble a b with
      | ok found =>
        simp only [ha, Joined.bundle.injEq] at h
        exact ⟨a, b, rfl, rfl, h ▸ ha⟩
      | error fault =>
        simp only [ha] at h
        contradiction
    · by_cases hd : ∃ raised, Disrupts m c raised
      · obtain ⟨raised, hd⟩ := hd
        exact absurd (hd.combine_eq.symm.trans h) (Joined.ofFault_ne_bundle raised info)
      · obtain ⟨error, he, _⟩ := combine_eq_surfaced hne fun raised hr => hd ⟨raised, hr⟩
        rw [he] at h
        contradiction
  · rintro ⟨a, b, rfl, rfl, ha⟩
    rw [combine_returned, joinAnswers, ha]

/-- A failure comes from two answers that do not assemble, or is a connector error that disrupts
the choice, or is the failure to surface, which tells its classification. -/
theorem combine_eq_failed_cases (h : combine m c = .failed error) :
    (∃ a b fault, m = .returned a ∧ c = .returned b ∧ assemble a b = .error fault ∧
        error = handle fault) ∨
      Disrupts m c (.connector error) ∨
      (surfacedAmong (countedFailures m c) = some error ∧
        ∃ terminal, error.classification = .ok terminal) := by
  by_cases hne : countedFailures m c = []
  · left
    obtain ⟨a, b, rfl, rfl⟩ := countedFailures_eq_nil_iff.mp hne
    rw [combine_returned, joinAnswers] at h
    cases ha : assemble a b with
    | ok info =>
      simp only [ha] at h
      contradiction
    | error fault =>
      simp only [ha, Joined.failed.injEq] at h
      exact ⟨a, b, fault, rfl, rfl, ha, h.symm⟩
  · right
    by_cases hd : ∃ raised, Disrupts m c raised
    · obtain ⟨raised, hd⟩ := hd
      exact .inl (Joined.ofFault_eq_failed_iff.mp (hd.combine_eq.symm.trans h) ▸ hd)
    · obtain ⟨surfaced, he, hs⟩ := combine_eq_surfaced hne fun raised hr => hd ⟨raised, hr⟩
      cases he.symm.trans h
      exact .inr hs

end InstanceLink
