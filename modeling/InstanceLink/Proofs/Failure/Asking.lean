import InstanceLink.Proofs.Failure.Classification
import Mathlib.Logic.Relation

/-!
# What asking a fault raises

A fault of a class of its own may raise another when it is asked for its codes, its text or its
classification, and that one yet another. A fault of a known class raises none, but for an
unclassified failure, which tells that it has no class.
-/

namespace InstanceLink

namespace Fault

/-- What asking a fault of a class of its own raises. -/
inductive Raises : Fault → Fault → Prop where
  /-- It was asked for its codes and its text, to be classified. -/
  | classifying {fault cause : Fault} (h : fault.obstacle? = some cause) : Raises fault cause
  /-- It was asked for its own classification. -/
  | classification {error : ConnectorError} {cause : Fault} (hown : error.own?.isSome = true)
      (h : error.classification = .error cause) : Raises (.connector error) cause
  /-- It was asked for its text, to be announced. -/
  | writing {error : ConnectorError} {cause : Fault} (h : error.textFault? = some cause) :
      Raises (.connector error) cause

/-- A fault leads to itself, and to what asking one that it leads to raises. -/
def LeadsTo : Fault → Fault → Prop := Relation.ReflTransGen Raises

variable {fault cause : Fault}

/-- Only a fault of a class of its own raises another for its codes. -/
theorem own?_of_codeFault? (h : fault.codeFault? = some cause) : fault.own?.isSome = true := by
  cases fault with
  | outside family name arguments =>
    cases family with
    | own traits answer code => rfl
    | _ => contradiction
  | remote coded status message => cases coded <;> contradiction
  | _ => contradiction

/-- Only a fault of a class of its own raises another for its text. -/
theorem own?_of_textFault? (h : fault.textFault? = some cause) : fault.own?.isSome = true := by
  rw [textFault?, Option.bind_eq_some_iff] at h
  obtain ⟨traits, ht, _⟩ := h
  rw [ht]
  rfl

/-- Only a fault of a class of its own raises another. -/
theorem Raises.own?_isSome (h : fault.Raises cause) : fault.own?.isSome = true := by
  cases h with
  | classifying h =>
    have hasked : fault.codeFault?.or fault.textFault? = some cause := by
      cases fault with
      | connector error => contradiction
      | _ => exact h
    rcases Option.or_eq_some_iff.mp hasked with hcode | ⟨_, htext⟩
    · exact own?_of_codeFault? hcode
    · exact own?_of_textFault? htext
  | classification hown h => exact hown
  | writing h => exact @own?_of_textFault? (.connector _) _ h

/-- A fault that can be reported raises no other. -/
theorem Raises.isReportable_eq_false (h : fault.Raises cause) : fault.isReportable = false := by
  refine Bool.eq_false_iff.mpr fun hr => ?_
  cases h with
  | classifying h =>
    rw [obstacle?_of_isReportable hr] at h
    contradiction
  | @classification error cause hown h =>
    obtain ⟨⟨terminal, ht⟩, _⟩ := handle_of_isReportable hr
    cases ht.symm.trans h
  | @writing error cause h =>
    obtain ⟨_, hw⟩ := handle_of_isReportable hr
    cases hw.symm.trans h

/-- A fault that raises no other leads to itself only. -/
theorem LeadsTo.eq_of_not_raises (h : fault.LeadsTo cause) (hno : ∀ next, ¬fault.Raises next) :
    cause = fault := by
  rcases Relation.ReflTransGen.cases_head h with rfl | ⟨next, hnext, _⟩
  · rfl
  · exact absurd hnext (hno next)

/-- A fault of a known class leads to itself only. -/
theorem LeadsTo.eq_of_known (h : fault.LeadsTo cause) (hknown : fault.own? = none) :
    cause = fault := by
  refine h.eq_of_not_raises fun next hnext => ?_
  have hown := hnext.own?_isSome
  rw [hknown] at hown
  contradiction

/-- Neither a fault nor what it leads to asks the program to stop. -/
def NeverStops (fault : Fault) : Prop := ∀ cause, fault.LeadsTo cause → cause.isStop = false

/-- A fault of a known class asks the program to stop itself or not at all. -/
theorem neverStops_of_known (hknown : fault.own? = none) (hstop : fault.isStop = false) :
    fault.NeverStops := by
  intro cause h
  rw [h.eq_of_known hknown]
  exact hstop

/-- A fault that can be reported never asks the program to stop. -/
theorem neverStops_of_isReportable (hr : fault.isReportable = true) : fault.NeverStops := by
  intro cause h
  have hself := h.eq_of_not_raises fun next hnext => by
    have hno := hnext.isReportable_eq_false
    rw [hr] at hno
    contradiction
  rw [hself]
  exact isStop_of_isReportable hr

end Fault

/-- An error that raises a fault in place of its classification is of the general class and tells
that it has none, or is of a class of its own. -/
theorem ConnectorErrorOf.classification_eq_error {error : ConnectorError} {fault : Fault}
    (h : error.classification = .error fault) :
    fault = .unclassified ∨ (Fault.connector error).Raises fault := by
  obtain ⟨sort, message, status, cause, chained⟩ := error
  cases sort with
  | known kind =>
    cases kind with
    | bare =>
      cases h
      exact .inl rfl
    | terminal => contradiction
    | transient => contradiction
  | own traits isTerminal isTransient classification => exact .inr (.classification rfl h)

end InstanceLink
