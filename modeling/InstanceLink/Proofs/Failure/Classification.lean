import InstanceLink.Failure.Classify

/-!
# Classes of handled failures

Handling a fault decides one of two classes, unless the fault is a connector error already. The
failure chosen among several is the first one classified as terminal, with only others before it,
or else the first of all; the choice breaks off at the first failure on its way that cannot tell
its classification.
-/

namespace InstanceLink

/-- A status code decides one of two classes. -/
theorem classify_eq (status : StatusCode) :
    classify status = if status.isTerminal = true then .terminal else .transient := rfl

/-- Whether an error is classified as terminal. -/
def ConnectorErrorOf.countsTerminal (e : ConnectorError) : Bool :=
  e.classification.toOption = some true

/-- A fault that is no connector error is wrapped. -/
theorem handle_of_not_connector {fault : Fault} (h : fault.isConnector = false) :
    handle fault =
      ⟨.known (classify (statusOf fault)),
        failureMessage ((statusOf fault).name ++ ": " ++ fault.text), statusOf fault, some fault,
        true⟩ := by
  cases fault with
  | connector error => contradiction
  | _ => rfl

/-- A fault that is no connector error is wrapped with the class of its code. -/
theorem sort_handle {fault : Fault} (h : fault.isConnector = false) :
    (handle fault).sort = .known (classify (statusOf fault)) := by
  rw [handle_of_not_connector h]

/-- A fault that is no connector error is wrapped with the classification of its code. -/
theorem classification_handle {fault : Fault} (h : fault.isConnector = false) :
    (handle fault).classification = .ok (statusOf fault).isTerminal := by
  rw [ConnectorErrorOf.classification, sort_handle h, classify_eq]
  cases (statusOf fault).isTerminal <;> rfl

/-- A fault that is no connector error is wrapped as an error that can be written. -/
theorem textFault?_handle {fault : Fault} (h : fault.isConnector = false) :
    (handle fault).textFault? = none := by
  rw [ConnectorErrorOf.textFault?, ConnectorErrorOf.own?, sort_handle h]
  rfl

/-- Only a fault that cannot answer what it is asked is not handled. -/
theorem classified_eq_error_iff {fault cause : Fault} :
    classified fault = .error cause ↔ fault.obstacle? = some cause := by
  unfold classified
  cases fault.obstacle? <;> simp

/-- A fault that answers what it is asked is handled. -/
theorem classified_eq_ok_iff {fault : Fault} {error : ConnectorError} :
    classified fault = .ok error ↔ fault.obstacle? = none ∧ handle fault = error := by
  unfold classified
  cases fault.obstacle? <;> simp

namespace Fault

/-- Whether a fault counts as terminal: by its own classification when it was classified before,
by its status code otherwise. -/
def isTerminal : Fault → Bool
  | .connector error => error.countsTerminal
  | fault => (statusOf fault).isTerminal

/-- Whether a fault can be reported as a failure: it does not ask the program to stop, and it
answers what it is asked on the way. -/
def isReportable : Fault → Bool
  | .connector error => error.classification.toOption.isSome && error.textFault?.isNone
  | fault => !fault.isStop && fault.obstacle?.isNone

/-- A fault that is no connector error is reported unless it stops the program or cannot answer
what it is asked. -/
theorem isReportable_of_not_connector {fault : Fault} (h : fault.isConnector = false) :
    fault.isReportable = (!fault.isStop && fault.obstacle?.isNone) := by
  cases fault with
  | connector error => contradiction
  | _ => rfl

/-- A fault that can be reported does not ask the program to stop. -/
theorem isStop_of_isReportable {fault : Fault} (h : fault.isReportable = true) :
    fault.isStop = false := by
  cases hc : fault.isConnector with
  | false =>
    rw [isReportable_of_not_connector hc, Bool.and_eq_true, Bool.not_eq_true'] at h
    exact h.1
  | true =>
    cases fault with
    | connector error => rfl
    | _ => contradiction

/-- A fault that can be reported answers what it is asked. -/
theorem obstacle?_of_isReportable {fault : Fault} (h : fault.isReportable = true) :
    fault.obstacle? = none := by
  cases hc : fault.isConnector with
  | false =>
    rw [isReportable_of_not_connector hc, Bool.and_eq_true] at h
    exact Option.isNone_iff_eq_none.mp h.2
  | true =>
    cases fault with
    | connector error => rfl
    | _ => contradiction

/-- A fault that can be reported is handled to a failure that tells its classification and can be
written. -/
theorem handle_of_isReportable {fault : Fault} (h : fault.isReportable = true) :
    (∃ terminal, (handle fault).classification = .ok terminal) ∧
      (handle fault).textFault? = none := by
  cases hc : fault.isConnector with
  | false => exact ⟨⟨_, classification_handle hc⟩, textFault?_handle hc⟩
  | true =>
    cases fault with
    | connector error =>
      obtain ⟨ht, hw⟩ := Bool.and_eq_true_iff.mp h
      refine ⟨?_, Option.isNone_iff_eq_none.mp hw⟩
      cases hk : error.classification with
      | ok found => exact ⟨found, hk⟩
      | error cause =>
        rw [hk] at ht
        contradiction
    | _ => contradiction

end Fault

/-- A fault is handled to a failure that counts as terminal exactly when it does. -/
theorem countsTerminal_handle (fault : Fault) :
    (handle fault).countsTerminal = fault.isTerminal := by
  cases hc : fault.isConnector with
  | true =>
    cases fault with
    | connector error => rfl
    | _ => contradiction
  | false =>
    have ht : fault.isTerminal = (statusOf fault).isTerminal := by
      cases fault with
      | connector error => contradiction
      | _ => rfl
    rw [ConnectorErrorOf.countsTerminal, classification_handle hc, ht]
    cases (statusOf fault).isTerminal <;> decide

/-- An error counts as terminal when that is its classification. -/
theorem countsTerminal_iff (error : ConnectorError) :
    error.countsTerminal = true ↔ error.classification = .ok true := by
  unfold ConnectorErrorOf.countsTerminal
  cases error.classification <;> simp [Except.toOption]

/-- The failure to surface among several, in their order: the first one that counts as terminal,
or else the first of all. -/
def surfacedAmong (errors : List ConnectorError) : Option ConnectorError :=
  (errors.find? ConnectorErrorOf.countsTerminal).or errors.head?

/-- The choice among several failures stops at a position: that of the first terminal one, behind
others only, or the very first when none is terminal. Or it breaks off, at one that cannot tell
its classification and behind none that is terminal. -/
theorem representativeFrom_cases (position : Nat) (errors : List ConnectorError) :
    (representativeFrom position errors = .ok 0 ∧ ∀ e ∈ errors, e.classification = .ok false) ∨
      ∃ j e, errors[j]? = some e ∧ (∀ x ∈ errors.take j, x.classification = .ok false) ∧
        (representativeFrom position errors = .ok (position + j) ∧ e.classification = .ok true ∨
          ∃ fault, representativeFrom position errors = .error fault ∧
            e.classification = .error fault) := by
  induction errors generalizing position with
  | nil => exact .inl ⟨rfl, fun e he => absurd he List.not_mem_nil⟩
  | cons error rest ih =>
    cases hk : error.classification with
    | error fault =>
      refine .inr ⟨0, error, rfl, by simp, .inr ⟨fault, ?_, hk⟩⟩
      simp only [representativeFrom, hk]
    | ok terminal =>
      cases terminal with
      | true =>
        refine .inr ⟨0, error, rfl, by simp, .inl ⟨?_, hk⟩⟩
        simp only [representativeFrom, hk, Nat.add_zero]
      | false =>
        simp only [representativeFrom, hk]
        rcases ih (position + 1) with ⟨hz, hall⟩ | ⟨j, e, he, hall, hstop⟩
        · left
          refine ⟨hz, fun x hx => ?_⟩
          rcases List.mem_cons.mp hx with rfl | hx
          · exact hk
          · exact hall x hx
        · refine .inr ⟨j + 1, e, by rw [List.getElem?_cons_succ, he], fun x hx => ?_, ?_⟩
          · rw [List.take_succ_cons] at hx
            rcases List.mem_cons.mp hx with rfl | hx
            · exact hk
            · exact hall x hx
          · rwa [Nat.add_right_comm, Nat.add_assoc] at hstop

/-- The choice breaks off at an error that cannot tell its classification, where all before it
tell that they are not terminal. -/
theorem representativeFrom_eq_error {errors : List ConnectorError} {j : Nat} {e : ConnectorError}
    {fault : Fault} (he : errors[j]? = some e) (hf : e.classification = .error fault)
    (hbefore : ∀ x ∈ errors.take j, x.classification = .ok false) (position : Nat) :
    representativeFrom position errors = .error fault := by
  induction errors generalizing j position with
  | nil => contradiction
  | cons error rest ih =>
    cases j with
    | zero =>
      rw [List.getElem?_cons_zero, Option.some.injEq] at he
      subst he
      simp only [representativeFrom, hf]
    | succ j =>
      rw [List.getElem?_cons_succ] at he
      rw [List.take_succ_cons] at hbefore
      simp only [representativeFrom, hbefore error List.mem_cons_self]
      exact ih he (fun x hx => hbefore x (List.mem_cons_of_mem _ hx)) (position + 1)

/-- Among several failures one is chosen, and it is the one to surface; or the choice breaks off
at one that cannot tell its classification and stands behind none that is terminal. -/
theorem representative_cases {errors : List ConnectorError} (hne : errors ≠ []) :
    (∃ position error, representative errors = .ok (position, error) ∧
      surfacedAmong errors = some error ∧ errors[position]? = some error ∧
      ∃ terminal, error.classification = .ok terminal) ∨
    ∃ j e fault, representative errors = .error fault ∧ errors[j]? = some e ∧
      e.classification = .error fault ∧ ∀ x ∈ errors.take j, x.classification = .ok false := by
  rcases representativeFrom_cases 0 errors with ⟨hr, hall⟩ | ⟨j, e, he, hall, hstop⟩
  · left
    have hhead : errors[0]? = some (errors.head hne) := by
      rw [← List.head?_eq_getElem?, List.head?_eq_some_head hne]
    have hnone : errors.find? ConnectorErrorOf.countsTerminal = none :=
      List.find?_eq_none.mpr fun x hx => by simp [countsTerminal_iff, hall x hx]
    refine ⟨0, _, ?_, ?_, hhead, false, hall _ (List.head_mem hne)⟩
    · simp only [representative, hr, hhead]
    · rw [surfacedAmong, hnone, Option.none_or, List.head?_eq_some_head hne]
  rcases hstop with ⟨hr, ht⟩ | ⟨fault, hr, hf⟩
  · left
    rw [Nat.zero_add] at hr
    have hfound : errors.find? ConnectorErrorOf.countsTerminal = some e := by
      obtain ⟨hlt, hget⟩ := List.getElem?_eq_some_iff.mp he
      refine List.find?_eq_some_iff_append.mpr
        ⟨(countsTerminal_iff e).mpr ht, errors.take j, errors.drop (j + 1), ?_, ?_⟩
      · rw [← hget, List.getElem_cons_drop, List.take_append_drop]
      · intro x hx
        simp [ConnectorErrorOf.countsTerminal, hall x hx, Except.toOption]
    refine ⟨j, e, ?_, by rw [surfacedAmong, hfound, Option.some_or], he, true, ht⟩
    simp only [representative, hr, he]
  · right
    exact ⟨j, e, fault, by simp only [representative, hr], he, hf, hall⟩

/-- The choice among several failures breaks off exactly at one that cannot tell its
classification, where all before it tell that they are not terminal. -/
theorem representative_eq_error_iff {errors : List ConnectorError} (hne : errors ≠ [])
    {fault : Fault} :
    representative errors = .error fault ↔ ∃ j e, errors[j]? = some e ∧
      e.classification = .error fault ∧ ∀ x ∈ errors.take j, x.classification = .ok false := by
  constructor
  · intro h
    rcases representative_cases hne with ⟨position, error, hr, _⟩ | ⟨j, e, cause, hr, he, hf, hb⟩
    · rw [hr] at h
      contradiction
    · rw [hr, Except.error.injEq] at h
      exact ⟨j, e, he, h ▸ hf, hb⟩
  · rintro ⟨j, e, he, hf, hb⟩
    simp only [representative, representativeFrom_eq_error he hf hb 0]

/-- The failure to surface is one of those offered, and counts as terminal exactly when one of
them does. -/
theorem surfacedAmong_spec {errors : List ConnectorError} {error : ConnectorError}
    (h : surfacedAmong errors = some error) :
    error ∈ errors ∧
      (error.countsTerminal = true ↔ ∃ e ∈ errors, e.countsTerminal = true) := by
  unfold surfacedAmong at h
  cases hf : errors.find? ConnectorErrorOf.countsTerminal with
  | some e =>
    rw [hf, Option.some_or] at h
    cases h
    have hmem := List.mem_of_find?_eq_some hf
    have hterminal := List.find?_some hf
    exact ⟨hmem, fun _ => ⟨error, hmem, hterminal⟩, fun _ => hterminal⟩
  | none =>
    rw [hf, Option.none_or] at h
    have hmem := List.mem_of_head? h
    have hnone := List.find?_eq_none.mp hf
    exact ⟨hmem, fun ht => absurd ht (hnone _ hmem), fun ⟨e, he, ht⟩ => absurd ht (hnone e he)⟩

end InstanceLink
