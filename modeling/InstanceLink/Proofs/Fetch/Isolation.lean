import InstanceLink.Proofs.Fetch.Sending

/-!
# Fetches beside each other

The fetches of a session share an executor and a log, but no step that concerns one of
them is seen by another: leaving such steps out of a run changes neither what becomes of
the others nor the requests that they send.
-/

namespace InstanceLink

namespace Session

/-- Two sessions that differ in one fetch at most: in what became of every other one, and
in all the requests that the others sent, they agree. -/
structure SameBeside (i : Nat) (s t : Session) : Prop where
  sink : s.sink = t.sink
  length : s.fetches.length = t.fetches.length
  fetches : ∀ j, j ≠ i → s.fetches[j]? = t.fetches[j]?
  requests : (s.requests.filter fun p => p.1 ≠ i) = t.requests.filter fun p => p.1 ≠ i
  shutDown : s.shutDown = t.shutDown

variable {i j : Nat} {s t : Session} {st : Step}

/-- A session is the same as itself. -/
theorem SameBeside.refl (i : Nat) (s : Session) : SameBeside i s s :=
  ⟨rfl, rfl, fun _ _ => rfl, rfl, rfl⟩

/-- Two sessions agree beside a fetch in either order. -/
theorem SameBeside.symm (h : SameBeside i s t) : SameBeside i t s :=
  ⟨h.sink.symm, h.length.symm, fun j hj => (h.fetches j hj).symm, h.requests.symm, h.shutDown.symm⟩

/-- A step that concerns a fetch moves that one. -/
theorem fetches_step_of_position? (s : Session) (hj : st.position? = some j) :
    (s.step st).fetches = s.fetches.modify j fun f => st.move f := by
  rcases fetches_step s st with ⟨k, hk, he⟩ | ⟨hk, _⟩
  · rw [hk, Option.some.injEq] at hj
    rw [he, hj]
  · rw [hk] at hj
    contradiction

/-- A step that concerns a fetch leaves alone whether the executor accepts work. -/
theorem shutDown_step_of_position? (s : Session) (hj : st.position? = some j) :
    (s.step st).shutDown = s.shutDown := by
  cases st with
  | fetch name key => contradiction
  | shutDown => contradiction
  | beginClose => contradiction
  | closeTransport => contradiction
  | _ => rfl

/-- A step that concerns a fetch sends what that fetch gives it to send. -/
theorem sent?_congr (hj : st.position? = some j) (hf : s.fetches[j]? = t.fetches[j]?) :
    s.sent? st = t.sent? st := by
  cases st with
  | send k side =>
    cases hj
    rw [sent?, sent?, hf]
  | _ => rfl

/-- What a step sends belongs to the fetch it concerns. -/
theorem position?_of_sent? {p : Nat × Request} (h : s.sent? st = some p) :
    st.position? = some p.1 := by
  obtain ⟨side, f, rfl, _⟩ := sent?_eq_some_iff.mp h
  rfl

/-- The fetch that a step adds unless it is refused. -/
def added (s : Session) : Step → List Fetch
  | .fetch name key => if (s.refusal? name).isNone then [Fetch.fresh name key s.sink] else []
  | _ => []

/-- What a step adds hangs on the executor and on what log calls meet. -/
theorem added_congr (hsink : s.sink = t.sink) (hshut : s.shutDown = t.shutDown) (st : Step) :
    s.added st = t.added st := by
  cases st with
  | fetch name key => rw [added, added, refusal?, refusal?, hsink, hshut]
  | _ => rfl

/-- A step that concerns no fetch keeps those there are and may add one. -/
theorem fetches_step_of_position?_none (s : Session) (hj : st.position? = none) :
    (s.step st).fetches = s.fetches ++ s.added st := by
  cases st with
  | fetch name key => rfl
  | shutDown => exact (List.append_nil _).symm
  | beginClose =>
    simp only [step, added, List.append_nil]
    split <;> rfl
  | closeTransport =>
    simp only [step, added, List.append_nil]
    split <;> rfl
  | _ => contradiction

/-- Whether the executor accepts work after a step hangs on nothing else before it. -/
theorem shutDown_step_congr (h : s.shutDown = t.shutDown) (st : Step) :
    (s.step st).shutDown = (t.step st).shutDown := by
  cases st with
  | fetch name key => exact h
  | beginClose =>
    simp only [step]
    split <;> split <;> exact h
  | closeTransport =>
    simp only [step]
    split <;> split <;> exact h
  | shutDown => rfl
  | _ => exact h

/-- Steps that concern one fetch are not seen by the others. -/
theorem SameBeside.step_left (h : SameBeside i s t) (hi : st.position? = some i) :
    SameBeside i (s.step st) t := by
  have hfetches := fetches_step_of_position? s hi
  refine ⟨(sink_step s st).trans h.sink, ?_, ?_, ?_,
    (shutDown_step_of_position? s hi).trans h.shutDown⟩
  · rw [hfetches, List.length_modify, h.length]
  · intro j hj
    rw [hfetches, List.getElem?_modify_ne _ _ hj.symm, h.fetches j hj]
  · have hnone : ((s.sent? st).toList.filter fun p => p.1 ≠ i) = [] := by
      rw [List.filter_eq_nil_iff]
      intro p hp
      have hpi := position?_of_sent? (Option.mem_toList.mp hp)
      rw [hi, Option.some.injEq] at hpi
      simp [hpi]
    rw [requests_step, List.filter_append, hnone, List.append_nil, h.requests]

/-- One and the same step keeps the others alike. -/
theorem SameBeside.step (h : SameBeside i s t) (st : Step) :
    SameBeside i (s.step st) (t.step st) := by
  have hsink : (s.step st).sink = (t.step st).sink := by
    rw [sink_step, sink_step, h.sink]
  cases hp : st.position? with
  | some k =>
    by_cases hk : k = i
    · subst hk
      exact ((h.step_left hp).symm.step_left hp).symm
    have hs := fetches_step_of_position? s hp
    have ht := fetches_step_of_position? t hp
    refine ⟨hsink, ?_, ?_, ?_, shutDown_step_congr h.shutDown st⟩
    · rw [hs, ht, List.length_modify, List.length_modify, h.length]
    · intro j hj
      rw [hs, ht, List.getElem?_modify, List.getElem?_modify, h.fetches j hj]
    · rw [requests_step, requests_step, List.filter_append, List.filter_append, h.requests,
        sent?_congr hp (h.fetches k hk)]
  | none =>
    have hsent : ∀ s : Session, s.sent? st = none := by
      intro s
      cases hq : s.sent? st with
      | none => rfl
      | some p =>
        rw [position?_of_sent? hq] at hp
        contradiction
    have hs := fetches_step_of_position?_none s hp
    have ht := fetches_step_of_position?_none t hp
    have hadded := added_congr h.sink h.shutDown st
    refine ⟨hsink, ?_, ?_, ?_, shutDown_step_congr h.shutDown st⟩
    · rw [hs, ht, hadded, List.length_append, List.length_append, h.length]
    · intro j hj
      rw [hs, ht, hadded, List.getElem?_append, List.getElem?_append, h.length, h.fetches j hj]
    · rw [requests_step, requests_step, hsent, hsent, Option.toList_none, List.append_nil,
        List.append_nil, h.requests]

/-- Leaving out any steps that concern one fetch changes nothing for the others. -/
theorem SameBeside.steps_filter {keep : Step → Bool}
    (hkeep : ∀ st, keep st = false → st.position? = some i) (h : SameBeside i s t)
    (row : List Step) : SameBeside i (s.steps row) (t.steps (row.filter keep)) := by
  induction row generalizing s t with
  | nil => exact h
  | cons st row ih =>
    cases hk : keep st with
    | true =>
      rw [List.filter_cons_of_pos hk]
      exact ih (h.step st)
    | false =>
      rw [List.filter_cons_of_neg (by simp [hk])]
      exact ih (h.step_left (hkeep st hk))

end Session

end InstanceLink
