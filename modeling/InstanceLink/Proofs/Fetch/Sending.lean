import InstanceLink.Proofs.Fetch.Moving

/-!
# Which calls send requests

A step moves each call of a fetch in one of a few ways, and none of them undoes that a
worker took the call up. Only calls that were taken up have sent a request, so a call that
was cancelled while it waited never sends one.
-/

namespace InstanceLink

namespace Call

variable {α : Type}

/-- Whether a call waits for a worker. -/
def isWaiting (c : Call α) : Bool :=
  match c.state with
  | .queued => true
  | _ => false

variable {c d : Call α} {asks : Except Fault Request → Prop} {meets : Except Fault α → Prop}

/-- A call that a worker took up is never handed back. -/
theorem Moves.isCancellable (h : c.Moves asks meets d) (hc : c.isCancellable = false) :
    d.isCancellable = false := by
  obtain ⟨state, notified⟩ := c
  cases h with
  | stay => exact hc
  | begin =>
    cases state with
    | queued => contradiction
    | _ => exact hc
  | send request _ =>
    cases state with
    | begun => cases request <;> rfl
    | _ => exact hc
  | finish reply _ =>
    cases state with
    | sent =>
      cases reply with
      | ok value => rfl
      | error fault => rfl
    | _ => exact hc
  | cancel =>
    cases state with
    | queued => contradiction
    | _ => exact hc
  | notify => exact hc

/-- A call that does not wait never waits again. -/
theorem Moves.isWaiting (h : c.Moves asks meets d) (hc : c.isWaiting = false) :
    d.isWaiting = false := by
  obtain ⟨state, notified⟩ := c
  cases h with
  | stay => exact hc
  | begin =>
    cases state with
    | queued => contradiction
    | _ => exact hc
  | send request _ =>
    cases state with
    | begun => cases request <;> rfl
    | _ => exact hc
  | finish reply _ =>
    cases state with
    | sent => rfl
    | _ => exact hc
  | cancel =>
    cases state with
    | queued => contradiction
    | _ => exact hc
  | notify => exact hc

/-- A call that neither waits nor was taken up was cancelled. -/
theorem outcome?_eq_cancelled (hw : c.isWaiting = false) (hc : c.isCancellable = true) :
    c.outcome? = some .cancelled := by
  obtain ⟨_ | _ | _ | outcome, notified⟩ := c
  · contradiction
  · contradiction
  · contradiction
  · cases outcome with
    | cancelled => rfl
    | returned value => contradiction
    | raised fault => contradiction

/-- A call that was cancelled was not taken up. -/
theorem isCancellable_of_cancelled (ho : c.outcome? = some .cancelled) :
    c.isCancellable = true := by
  obtain ⟨_ | _ | _ | outcome, notified⟩ := c
  · rfl
  · contradiction
  · contradiction
  · cases ho
    rfl

/-- A call that is over does not wait. -/
theorem isWaiting_of_isOver (ho : c.isOver = true) : c.isWaiting = false := by
  obtain ⟨_ | _ | _ | outcome, notified⟩ := c
  · contradiction
  · rfl
  · rfl
  · rfl

end Call

namespace Fetch

/-- Whether a worker took a call of the fetch up: it neither waits nor was cancelled while
it did. -/
def isTaken (f : Fetch) : Side → Bool
  | .metadata => !f.metadata.isCancellable
  | .certificate => !f.certificate.isCancellable

/-- Whether a call of the fetch waits for a worker. -/
def isWaiting (f : Fetch) : Side → Bool
  | .metadata => f.metadata.isWaiting
  | .certificate => f.certificate.isWaiting

variable {f : Fetch} {side : Side} {r : Request}

/-- A request is sent by a call that was taken up, and it is a request of that call. -/
theorem isTaken_of_sending? (h : f.sending? side = some r) :
    f.isTaken side = true ∧ r.side = side := by
  obtain ⟨name, key, sink, ⟨metadata, _⟩, ⟨certificate, _⟩, result, deciding⟩ := f
  cases side with
  | metadata =>
    cases metadata with
    | begun =>
      cases h
      exact ⟨rfl, rfl⟩
    | _ => contradiction
  | certificate =>
    cases certificate with
    | begun =>
      cases key with
      | ok key =>
        cases h
        exact ⟨rfl, rfl⟩
      | error fault => contradiction
    | _ => contradiction

/-- A call that neither waits nor was taken up is not taken up later either. -/
theorem Keeps.isTaken {g : Fetch} (h : f.Keeps g) (hw : f.isWaiting side = false)
    (ht : f.isTaken side = false) : g.isTaken side = false := by
  cases side with
  | metadata =>
    have hc := Call.outcome?_eq_cancelled hw (by simpa [isTaken] using ht)
    simp [isTaken, Call.isCancellable_of_cancelled (h.metadata _ hc)]
  | certificate =>
    have hc := Call.outcome?_eq_cancelled hw (by simpa [isTaken] using ht)
    simp [isTaken, Call.isCancellable_of_cancelled (h.certificate _ hc)]

end Fetch

namespace Session

/-- A call that was taken up stays taken up. -/
theorem Step.isTaken_move {f : Fetch} {side : Side} (h : f.isTaken side = true) (st : Step) :
    (st.move f).isTaken side = true := by
  have hmoved := st.movedBy f
  cases side with
  | metadata =>
    simp [Fetch.isTaken, hmoved.metadata.isCancellable (by simpa [Fetch.isTaken] using h)]
  | certificate =>
    simp [Fetch.isTaken, hmoved.certificate.isCancellable (by simpa [Fetch.isTaken] using h)]

/-- A call that does not wait never waits again. -/
theorem Step.isWaiting_move {f : Fetch} {side : Side} (h : f.isWaiting side = false)
    (st : Step) : (st.move f).isWaiting side = false := by
  have hmoved := st.movedBy f
  cases side with
  | metadata => exact hmoved.metadata.isWaiting h
  | certificate => exact hmoved.certificate.isWaiting h

/-- The request a step sends, with the position of its fetch. -/
def sent? (s : Session) : Step → Option (Nat × Request)
  | .send i side => ((s.fetches[i]?).bind fun f => f.sending? side).map fun r => (i, r)
  | _ => none

/-- A step adds the request it sends to those sent before. -/
theorem requests_step (s : Session) (st : Step) :
    (s.step st).requests = s.requests ++ (s.sent? st).toList := by
  cases st with
  | send i side => rfl
  | fetch name key => exact (List.append_nil _).symm
  | beginClose =>
    simp only [step, sent?, Option.toList_none, List.append_nil]
    split <;> rfl
  | closeTransport =>
    simp only [step, sent?, Option.toList_none, List.append_nil]
    split <;> rfl
  | begin i side => exact (List.append_nil _).symm
  | finish i reply => exact (List.append_nil _).symm
  | cancelCall i side => exact (List.append_nil _).symm
  | notify i side => exact (List.append_nil _).symm
  | settle i => exact (List.append_nil _).symm
  | cancel i => exact (List.append_nil _).symm
  | propagate i side => exact (List.append_nil _).symm
  | shutDown => exact (List.append_nil _).symm

/-- A request that a step sends is one of a call of the fetch it concerns. -/
theorem sent?_eq_some_iff {s : Session} {st : Step} {i : Nat} {r : Request} :
    s.sent? st = some (i, r) ↔
      ∃ side f, st = .send i side ∧ s.fetches[i]? = some f ∧ f.sending? side = some r := by
  cases st with
  | send j side =>
    simp only [sent?, Option.map_eq_some_iff, Option.bind_eq_some_iff, Prod.mk.injEq]
    constructor
    · rintro ⟨_, ⟨f, hf, hr⟩, rfl, rfl⟩
      exact ⟨side, f, rfl, hf, hr⟩
    · rintro ⟨_, f, hst, hf, hr⟩
      cases hst
      exact ⟨r, ⟨f, hf, hr⟩, rfl, rfl⟩
  | _ => simp [sent?]

/-- Every request was sent by a call of its fetch that was taken up. -/
def SentByTaken (s : Session) : Prop :=
  ∀ i r, (i, r) ∈ s.requests → ∃ f, s.fetches[i]? = some f ∧ f.isTaken r.side = true

/-- A step sends requests of calls that were taken up only. -/
theorem SentByTaken.step {s : Session} (h : s.SentByTaken) (st : Step) :
    (s.step st).SentByTaken := by
  have hkept : ∀ (i : Nat) (side : Side),
      (∃ f : Fetch, s.fetches[i]? = some f ∧ f.isTaken side = true) →
      ∃ f : Fetch, (s.step st).fetches[i]? = some f ∧ f.isTaken side = true := by
    rintro i side ⟨f, hf, ht⟩
    refine ⟨_, getElem?_step hf st, ?_⟩
    split
    · exact Step.isTaken_move ht st
    · exact ht
  intro i r hr
  rw [requests_step, List.mem_append, Option.mem_toList, sent?_eq_some_iff] at hr
  refine hkept i r.side ?_
  rcases hr with hr | ⟨side, f, rfl, hf, hs⟩
  · exact h i r hr
  · obtain ⟨ht, rfl⟩ := Fetch.isTaken_of_sending? hs
    exact ⟨f, hf, ht⟩

/-- In every run, requests were sent by calls that were taken up only. -/
theorem sentByTaken_of_steps (sink : LogSink) (row : List Step) :
    ((fresh sink).steps row).SentByTaken :=
  steps_induction (Q := SentByTaken) (fun _ st _ h => h.step st) nofun

/-- A call that neither waits nor was taken up has sent no request and never will. -/
theorem side_ne_of_mem_requests {sink : LogSink} {row : List Step} {i : Nat} {f : Fetch}
    {side : Side} (hf : ((fresh sink).steps row).fetches[i]? = some f)
    (hw : f.isWaiting side = false)
    (ht : f.isTaken side = false) {later : List Step} {r : Request}
    (hr : (i, r) ∈ ((fresh sink).steps (row ++ later)).requests) : r.side ≠ side := by
  rintro rfl
  obtain ⟨g, hg, hgt⟩ := sentByTaken_of_steps sink _ i r hr
  obtain ⟨g', hg', hkeeps⟩ := keeps_steps hf later
  rw [steps_append, hg'] at hg
  cases hg
  rw [hkeeps.isTaken hw ht] at hgt
  contradiction

end Session

end InstanceLink
