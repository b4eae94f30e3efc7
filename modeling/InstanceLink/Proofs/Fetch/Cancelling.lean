import InstanceLink.Proofs.Fetch.Isolation
import InstanceLink.Proofs.Fetch.Origin

/-!
# Cancelling a result

A run in which the caller cancels is held against the run that leaves the cancellation
out. Where the result was delivered before, both are the same. Otherwise they agree in
every other fetch and in every call that a worker had taken up, and differ in that the
result ends cancelled and that the calls still waiting never send a request.
-/

namespace InstanceLink

/-- Why a result cannot be set. -/
inductive SetRefusal where
  /-- It is settled already. -/
  | settled

/-- Setting a result to what a join gives: a settled one refuses. -/
def FetchResult.set (r : FetchResult) (joined : Joined) : Except SetRefusal FetchResult :=
  if r.isDone = true then .error .settled else .ok joined.result

namespace Call

variable {α : Type} {c d : Call α}

/-- Whether a call was taken up is told by its state. -/
theorem isCancellable_congr (h : c.state = d.state) : c.isCancellable = d.isCancellable := by
  rw [isCancellable, isCancellable, h]

/-- A call that was taken up is not cancelled. -/
theorem cancel_of_not_isCancellable (h : c.isCancellable = false) : c.cancel = c := by
  obtain ⟨state, notified⟩ := c
  cases state with
  | queued => contradiction
  | _ => rfl

/-- A call that was asked to cancel does not wait. -/
theorem isWaiting_cancel (c : Call α) : c.cancel.isWaiting = false := by
  obtain ⟨state, notified⟩ := c
  cases state <;> rfl

/-- Calls that stand alike are taken up alike. -/
theorem state_begin (h : c.state = d.state) : c.begin.state = d.begin.state := by
  obtain ⟨state, notified⟩ := c
  obtain ⟨state', notified'⟩ := d
  cases h
  cases state <;> rfl

/-- Calls that stand alike send alike. -/
theorem state_send (h : c.state = d.state) (request : Except Fault Request) :
    (c.send request).state = (d.send request).state := by
  obtain ⟨state, notified⟩ := c
  obtain ⟨state', notified'⟩ := d
  cases h
  cases state with
  | begun => cases request <;> rfl
  | _ => rfl

/-- Calls that stand alike are answered alike. -/
theorem state_finish (h : c.state = d.state) (reply : Except Fault α) :
    (c.finish reply).state = (d.finish reply).state := by
  obtain ⟨state, notified⟩ := c
  obtain ⟨state', notified'⟩ := d
  cases h
  cases state <;> rfl

end Call

namespace Fetch

/-- A call stands alike in two fetches that ask for the same. -/
structure AlikeIn (side : Side) (f g : Fetch) : Prop where
  name : f.name = g.name
  key : f.key = g.key
  metadata : side = .metadata → f.metadata.state = g.metadata.state
  certificate : side = .certificate → f.certificate.state = g.certificate.state

variable {f g : Fetch} {side : Side}

/-- A call stands as it stands. -/
theorem AlikeIn.refl (side : Side) (f : Fetch) : f.AlikeIn side f :=
  ⟨rfl, rfl, fun _ => rfl, fun _ => rfl⟩

/-- Calls stand alike in either order of the fetches. -/
theorem AlikeIn.symm (h : f.AlikeIn side g) : g.AlikeIn side f :=
  ⟨h.name.symm, h.key.symm, fun hs => (h.metadata hs).symm, fun hs => (h.certificate hs).symm⟩

/-- Calls that stand alike with a third stand alike. -/
theorem AlikeIn.trans {e : Fetch} (h : f.AlikeIn side g) (hg : g.AlikeIn side e) :
    f.AlikeIn side e :=
  ⟨h.name.trans hg.name, h.key.trans hg.key, fun hs => (h.metadata hs).trans (hg.metadata hs),
    fun hs => (h.certificate hs).trans (hg.certificate hs)⟩

/-- Calls that stand alike were both taken up or neither. -/
theorem AlikeIn.isTaken (h : f.AlikeIn side g) : f.isTaken side = g.isTaken side := by
  cases side with
  | metadata => rw [Fetch.isTaken, Fetch.isTaken, Call.isCancellable_congr (h.metadata rfl)]
  | certificate => rw [Fetch.isTaken, Fetch.isTaken, Call.isCancellable_congr (h.certificate rfl)]

/-- Fetches that ask for the same send the same. -/
theorem AlikeIn.request (h : f.AlikeIn side g) (other : Side) :
    f.request other = g.request other := by
  cases other with
  | metadata => rw [Fetch.request, Fetch.request, h.name]
  | certificate => rw [Fetch.request, Fetch.request, h.name, h.key]

/-- Cancelling calls does not move one that was taken up. -/
theorem alikeIn_cancelCall (ht : f.isTaken side = true) (other : Side) :
    (f.cancelCall other).AlikeIn side f := by
  have hm : side = .metadata → f.metadata.cancel = f.metadata := by
    rintro rfl
    exact Call.cancel_of_not_isCancellable (by simpa [Fetch.isTaken] using ht)
  have hc : side = .certificate → f.certificate.cancel = f.certificate := by
    rintro rfl
    exact Call.cancel_of_not_isCancellable (by simpa [Fetch.isTaken] using ht)
  cases other with
  | metadata => exact ⟨rfl, rfl, fun hs => congrArg Call.state (hm hs), fun _ => rfl⟩
  | certificate => exact ⟨rfl, rfl, fun _ => rfl, fun hs => congrArg Call.state (hc hs)⟩

/-- A cancelled result does not move a call that was taken up. -/
theorem alikeIn_propagate (ht : f.isTaken side = true) (other : Side) :
    (f.propagate other).AlikeIn side f := by
  unfold propagate
  split
  · exact alikeIn_cancelCall ht other
  · exact .refl side f

/-- Cancelling the result moves no call. -/
theorem alikeIn_cancel (side : Side) (f : Fetch) : f.cancel.AlikeIn side f := by
  unfold Fetch.cancel
  split
  · exact ⟨rfl, rfl, fun _ => rfl, fun _ => rfl⟩
  · exact .refl side f

/-- Setting the result moves no call. -/
theorem alikeIn_settle (side : Side) (f : Fetch) : f.settle.AlikeIn side f := by
  unfold settle
  split <;> exact ⟨rfl, rfl, fun _ => rfl, fun _ => rfl⟩

/-- A notification moves no call. -/
theorem alikeIn_notify (side : Side) (f : Fetch) (other : Side) :
    (f.notify other).AlikeIn side f := by
  unfold notify
  split
  · cases other <;> exact ⟨rfl, rfl, fun _ => rfl, fun _ => rfl⟩
  · exact .refl side f

/-- A call that was taken up moves by what the worker does with it, whatever becomes of
the rest of its fetch. -/
theorem AlikeIn.move (h : f.AlikeIn side g) (ht : f.isTaken side = true) (st : Session.Step) :
    (st.move f).AlikeIn side (st.move g) := by
  have hg : g.isTaken side = true := h.isTaken ▸ ht
  cases st with
  | begin i other =>
    cases other with
    | metadata =>
      exact ⟨h.name, h.key, fun hs => Call.state_begin (h.metadata hs), h.certificate⟩
    | certificate =>
      exact ⟨h.name, h.key, h.metadata, fun hs => Call.state_begin (h.certificate hs)⟩
  | send i other =>
    rw [Session.Step.move, Session.Step.move, send.eq_def, send.eq_def, h.request, h.request]
    cases other with
    | metadata =>
      exact ⟨h.name, h.key, fun hs => Call.state_send (h.metadata hs) _, h.certificate⟩
    | certificate =>
      exact ⟨h.name, h.key, h.metadata, fun hs => Call.state_send (h.certificate hs) _⟩
  | finish i reply =>
    cases reply with
    | metadata reply =>
      exact ⟨h.name, h.key, fun hs => Call.state_finish (h.metadata hs) reply, h.certificate⟩
    | certificate reply =>
      exact ⟨h.name, h.key, h.metadata, fun hs => Call.state_finish (h.certificate hs) reply⟩
  | cancelCall i other =>
    exact (alikeIn_cancelCall ht other).trans (h.trans (alikeIn_cancelCall hg other).symm)
  | propagate i other =>
    exact (alikeIn_propagate ht other).trans (h.trans (alikeIn_propagate hg other).symm)
  | notify i other =>
    exact (alikeIn_notify side f other).trans (h.trans (alikeIn_notify side g other).symm)
  | settle i => exact (alikeIn_settle side f).trans (h.trans (alikeIn_settle side g).symm)
  | cancel i => exact (alikeIn_cancel side f).trans (h.trans (alikeIn_cancel side g).symm)
  | fetch name key => exact h
  | shutDown => exact h
  | beginClose => exact h
  | closeTransport => exact h

/-- Passing a cancellation on leaves no call waiting. -/
theorem isWaiting_propagate (hr : f.result = .cancelled) (side : Side) :
    (f.propagate side).isWaiting side = false := by
  rw [propagate, hr]
  cases side with
  | metadata => exact f.metadata.isWaiting_cancel
  | certificate => exact f.certificate.isWaiting_cancel

/-- The caller is told that the result is cancelled where nothing was delivered. -/
theorem cancelAnswer_eq (f : Fetch) : f.cancelAnswer = !f.result.isDelivered := by
  rw [cancelAnswer]
  cases f.result <;> rfl

/-- Once the caller asked to cancel it, a result is settled. -/
theorem isDone_cancel (f : Fetch) : f.cancel.result.isDone = true := by
  rw [Fetch.cancel]
  cases hr : f.result with
  | pending => rfl
  | _ => rw [hr]; rfl

/-- A delivered result is not cancelled any more. -/
theorem cancel_of_isDelivered (hd : f.result.isDelivered = true) : f.cancel = f := by
  unfold Fetch.cancel
  cases hr : f.result with
  | pending =>
    rw [hr] at hd
    contradiction
  | _ => rfl

/-- A delivered result cancels no call. -/
theorem propagate_of_isDelivered (hd : f.result.isDelivered = true) (side : Side) :
    f.propagate side = f := by
  unfold propagate
  cases hr : f.result with
  | cancelled =>
    rw [hr] at hd
    contradiction
  | _ => rfl

/-- No call of a delivered result waits: both are over. -/
theorem Coherent.isWaiting_of_isDelivered (h : f.Coherent) (hd : f.result.isDelivered = true)
    (side : Side) : f.isWaiting side = false := by
  obtain ⟨m, c, hm, hc, _⟩ := h.combine_of_delivered hd
  cases side with
  | metadata => exact Call.isWaiting_of_isOver (Option.isSome_of_mem hm)
  | certificate => exact Call.isWaiting_of_isOver (Option.isSome_of_mem hc)

/-- Setting what a join holds absorbs the refusal of a settled result. -/
theorem settle_eq {joined : Joined} (hd : f.deciding = some joined) :
    f.settle = { f with
      result := (f.result.set joined).toOption.getD f.result
      deciding := none } := by
  obtain ⟨name, key, sink, metadata, certificate, result, deciding⟩ := f
  cases hd
  cases joined <;> cases result <;> rfl

/-- What a join holds is refused by a result that was cancelled meanwhile, and by no
other. -/
theorem Coherent.set_eq_error_iff (h : f.Coherent) {joined : Joined}
    (hd : f.deciding = some joined) :
    f.result.set joined = .error .settled ↔ f.result = .cancelled := by
  have hdelivered := (h.held joined hd).2
  unfold FetchResult.set
  cases hr : f.result with
  | pending => simp [FetchResult.isDone]
  | cancelled => simp [FetchResult.isDone]
  | bundle info =>
    rw [hr] at hdelivered
    contradiction
  | failed error =>
    rw [hr] at hdelivered
    contradiction

end Fetch

namespace Session

/-- Whether a step is part of cancelling the result of a fetch: the cancellation itself, or
passing it on to a call. -/
def Step.cancels (i : Nat) : Step → Bool
  | .cancel j => j = i
  | .propagate j _ => j = i
  | _ => false

/-- The same steps without those that cancel the result of a fetch. -/
def uncancelled (i : Nat) (row : List Step) : List Step := row.filter fun st => !st.cancels i

/-- Cancelling a result concerns its fetch. -/
theorem Step.position?_of_cancels {i : Nat} {st : Step} (h : st.cancels i = true) :
    st.position? = some i := by
  cases st with
  | cancel j => exact congrArg some (of_decide_eq_true h)
  | propagate j side => exact congrArg some (of_decide_eq_true h)
  | _ => contradiction

/-- Cancelling a result does not move a call that was taken up. -/
theorem Step.alikeIn_of_cancels {i : Nat} {st : Step} (h : st.cancels i = true) {f : Fetch}
    {side : Side} (ht : f.isTaken side = true) : (st.move f).AlikeIn side f := by
  cases st with
  | cancel j => exact Fetch.alikeIn_cancel side f
  | propagate j other => exact Fetch.alikeIn_propagate ht other
  | _ => contradiction

/-- Cancelling a result that was delivered moves nothing. -/
theorem Step.move_of_cancels {i : Nat} {st : Step} (h : st.cancels i = true) {f : Fetch}
    (hd : f.result.isDelivered = true) : st.move f = f := by
  cases st with
  | cancel j => exact Fetch.cancel_of_isDelivered hd
  | propagate j side => exact Fetch.propagate_of_isDelivered hd side
  | _ => contradiction

/-- A change that leaves a fetch as it is leaves the session as it is. -/
theorem update_eq_self {s : Session} {i : Nat} {f : Fetch} {change : Fetch → Fetch}
    (hf : s.fetches[i]? = some f) (h : change f = f) : s.update i change = s := by
  have hfetches : s.fetches.modify i change = s.fetches := by
    refine List.ext_getElem? fun j => ?_
    rw [List.getElem?_modify]
    by_cases hj : i = j
    · subst hj
      simp [hf, h]
    · simp [hj]
  rw [update, hfetches]

variable {i : Nat} {s t : Session} {f g : Fetch} {side : Side}

/-- Cancelling a result that was delivered does nothing at all. -/
theorem step_of_cancels {st : Step} (h : st.cancels i = true) (hf : s.fetches[i]? = some f)
    (hd : f.result.isDelivered = true) : s.step st = s := by
  have hmove := Step.move_of_cancels h hd
  cases st with
  | cancel j =>
    cases of_decide_eq_true h
    exact update_eq_self hf hmove
  | propagate j side =>
    cases of_decide_eq_true h
    exact update_eq_self hf hmove
  | _ => contradiction

/-- Where the result was delivered, cancelling it may be left out of a run. -/
theorem steps_uncancelled (hf : s.fetches[i]? = some f) (hd : f.result.isDelivered = true)
    (row : List Step) : s.steps row = s.steps (uncancelled i row) := by
  induction row generalizing s f with
  | nil => rfl
  | cons st row ih =>
    rw [uncancelled, List.filter_cons]
    cases hc : st.cancels i with
    | true =>
      rw [steps, List.foldl_cons, step_of_cancels hc hf hd]
      exact ih hf hd
    | false =>
      -- Both runs take this step, and the result stays delivered.
      obtain ⟨g, hg, hkeeps⟩ := keeps_steps hf [st]
      have hr : g.result = f.result := by
        refine hkeeps.result ?_
        cases hr : f.result <;> simp_all [FetchResult.isDelivered, FetchResult.isDone]
      exact ih (s := s.step st) hg (hr ▸ hd)

/-- A call that was taken up stands as in the run that leaves the cancellation out. -/
theorem alikeIn_steps_uncancelled (hf : s.fetches[i]? = some f) (hg : t.fetches[i]? = some g)
    (h : f.AlikeIn side g) (ht : f.isTaken side = true) (row : List Step) :
    ∃ f' g', (s.steps row).fetches[i]? = some f' ∧
      (t.steps (uncancelled i row)).fetches[i]? = some g' ∧ f'.AlikeIn side g' := by
  induction row generalizing s t f g with
  | nil => exact ⟨f, g, hf, hg, h⟩
  | cons st row ih =>
    rw [uncancelled, List.filter_cons]
    cases hc : st.cancels i with
    | true =>
      -- Only the first run takes this step, and it leaves the call where it is.
      have hs := getElem?_step_of_position? hf (Step.position?_of_cancels hc)
      exact ih hs hg ((Step.alikeIn_of_cancels hc ht).trans h) (Step.isTaken_move ht st)
    | false =>
      by_cases hi : st.position? = some i
      · exact ih (getElem?_step_of_position? hf hi) (getElem?_step_of_position? hg hi)
          (h.move ht st) (Step.isTaken_move ht st)
      · exact ih (getElem?_step_of_position?_ne hf hi) (getElem?_step_of_position?_ne hg hi) h ht

/-- The other fetches are as in the run that leaves the cancellation out. -/
theorem sameBeside_uncancelled (i : Nat) (s : Session) (row : List Step) :
    SameBeside i (s.steps row) (s.steps (uncancelled i row)) := by
  refine (SameBeside.refl i s).steps_filter (fun st hst => ?_) row
  exact Step.position?_of_cancels (Bool.not_eq_false' _ ▸ hst)

/-- A call that a cancelled result was passed on to does not wait any more. -/
theorem isWaiting_of_propagate {row : List Step} (hf : s.fetches[i]? = some f)
    (hr : f.result = .cancelled) (hp : .propagate i side ∈ row) :
    ∃ g, (s.steps row).fetches[i]? = some g ∧ g.isWaiting side = false := by
  obtain ⟨before, after, rfl⟩ := List.append_of_mem hp
  obtain ⟨g, hg, hkeeps⟩ := keeps_steps hf before
  have hgr : g.result = .cancelled := (hkeeps.result (by rw [hr]; rfl)).trans hr
  have hmoved : ((s.steps before).step (.propagate i side)).fetches[i]? = some (g.propagate side) :=
    getElem?_step_of_position? hg rfl
  rw [steps_append]
  exact kept_by_steps (P := fun g => g.isWaiting side = false)
    (s := (s.steps before).step (.propagate i side))
    (fun _ st _ _ h => Step.isWaiting_move h st) hmoved (Fetch.isWaiting_propagate hgr side)

/-- A call does not wait any more once a cancellation of the result was passed on to it,
also where the result was delivered before. -/
theorem isWaiting_of_cancel {sink : LogSink} {row between : List Step}
    (hf : ((fresh sink).steps row).fetches[i]? = some f) (hp : .propagate i side ∈ between) :
    ∃ g, ((fresh sink).steps (row ++ .cancel i :: between)).fetches[i]? = some g ∧
      g.isWaiting side = false := by
  have hcancelled : (((fresh sink).steps row).step (.cancel i)).fetches[i]? = some f.cancel :=
    getElem?_step_of_position? hf rfl
  rw [steps_append]
  -- A delivered result is not passed on, but then no call of the fetch waits at all.
  by_cases hd : f.result.isDelivered = true
  · have hw : f.cancel.isWaiting side = false := by
      rw [Fetch.cancel_of_isDelivered hd]
      exact (coherent_of_steps hf).isWaiting_of_isDelivered hd side
    exact kept_by_steps (P := fun g => g.isWaiting side = false)
      (s := ((fresh sink).steps row).step (.cancel i))
      (fun _ st _ _ h => Step.isWaiting_move h st) hcancelled hw
  · refine isWaiting_of_propagate (s := ((fresh sink).steps row).step (.cancel i)) hcancelled ?_ hp
    rw [← f.cancelAnswer_iff, f.cancelAnswer_eq, Bool.eq_false_iff.mpr hd]
    rfl

/-- Once a cancellation of the result was passed on to both calls, a call that no worker
took up before has sent no request and never will. -/
theorem side_ne_of_cancel {sink : LogSink} {row between : List Step}
    (hf : ((fresh sink).steps row).fetches[i]? = some f)
    (hbetween : ∀ side, .propagate i side ∈ between) :
    ∃ g, ((fresh sink).steps (row ++ .cancel i :: between)).fetches[i]? = some g ∧
      ∀ side, g.isTaken side = false → ∀ later r,
        (i, r) ∈ ((fresh sink).steps (row ++ .cancel i :: between ++ later)).requests →
        r.side ≠ side := by
  obtain ⟨g, hg, _⟩ := isWaiting_of_cancel hf (hbetween .metadata)
  refine ⟨g, hg, fun side ht later r hr => ?_⟩
  obtain ⟨g', hg', hw⟩ := isWaiting_of_cancel hf (hbetween side)
  cases hg.symm.trans hg'
  exact side_ne_of_mem_requests hg hw ht hr

end Session

open Session

/-- The laws of cancelling a result, at any moment of any run and whatever follows. The
caller is told that the result is cancelled exactly when it ends so. Once the cancellation
was passed on to both calls, a call that no worker took up before never sends a request.
A call stands, from the moment that it was taken up, as in the run that leaves out what
cancellation follows. A callback that comes too late to set its result absorbs the refusal,
so that no fault leaves a callback but a request to stop the program, the want of a class, one
raised on asking a fault that a call ended with, or that of the log call for the failure.
Where the caller is told that the result is not cancelled, the whole run is as if it had not
been asked for; and the other fetches are never affected. -/
theorem cancel_laws {sink : LogSink} {row : List Step} {i : Nat} {f : Fetch}
    (hf : ((fresh sink).steps row).fetches[i]? = some f) :
    (∀ later, ∃ g, ((fresh sink).steps (row ++ .cancel i :: later)).fetches[i]? = some g ∧
      (f.cancelAnswer = true ↔ g.result = .cancelled)) ∧
    (∀ between, (∀ side, .propagate i side ∈ between) →
      ∃ g, ((fresh sink).steps (row ++ .cancel i :: between)).fetches[i]? = some g ∧
        ∀ side, g.isTaken side = false → ∀ later r,
          (i, r) ∈ ((fresh sink).steps (row ++ .cancel i :: between ++ later)).requests →
          r.side ≠ side) ∧
    (∀ before g, ((fresh sink).steps (row ++ before)).fetches[i]? = some g →
      ∀ side, g.isTaken side = true → ∀ later, ∃ h h',
        ((fresh sink).steps (row ++ before ++ later)).fetches[i]? = some h ∧
        ((fresh sink).steps (row ++ before ++ uncancelled i later)).fetches[i]? = some h' ∧
        h.AlikeIn side h') ∧
    (∀ later g, ((fresh sink).steps (row ++ .cancel i :: later)).fetches[i]? = some g →
      (∀ joined, g.deciding = some joined →
        (g.result.set joined = .error .settled ↔ g.result = .cancelled) ∧
        g.settle = { g with
          result := (g.result.set joined).toOption.getD g.result
          deciding := none }) ∧
      ∀ side fault,
        entry? ((fresh sink).steps (row ++ .cancel i :: later)) i side = some (.escaped fault) →
        fault.isStop = true ∨ fault = .unclassified ∨
          (∃ raised, (g.metadata.outcome? = some (.raised raised) ∨
              g.certificate.outcome? = some (.raised raised)) ∧
            Relation.TransGen Fault.Raises raised fault) ∨
          ∃ error, g.combined? = some (.failed error) ∧
            g.sink.fault? (FetchEvent.failureRecord g.name error) = some fault) ∧
    (f.cancelAnswer = false → ∀ later,
      (fresh sink).steps (row ++ .cancel i :: later) =
        (fresh sink).steps (row ++ uncancelled i later)) ∧
    ∀ later, SameBeside i ((fresh sink).steps (row ++ .cancel i :: later))
      ((fresh sink).steps (row ++ uncancelled i later)) := by
  have hcancelled : (((fresh sink).steps row).step (.cancel i)).fetches[i]? = some f.cancel :=
    getElem?_step_of_position? hf rfl
  have hdropped : ∀ later, uncancelled i (.cancel i :: later) = uncancelled i later := by
    intro later
    simp [uncancelled, Step.cancels]
  refine ⟨?_, fun between hbetween => side_ne_of_cancel hf hbetween, ?_, ?_, ?_, ?_⟩
  · intro later
    obtain ⟨g, hg, hkeeps⟩ := keeps_steps hcancelled later
    rw [steps_append]
    exact ⟨g, hg, by rw [f.cancelAnswer_iff, hkeeps.result f.isDone_cancel]⟩
  · intro before g hg side ht later
    rw [steps_append _ (row ++ before), steps_append _ (row ++ before)]
    exact alikeIn_steps_uncancelled hg hg (.refl side g) ht later
  · intro later g hg
    have hcoherent := coherent_of_steps hg
    refine ⟨fun joined hd => ⟨hcoherent.set_eq_error_iff hd, Fetch.settle_eq hd⟩, ?_⟩
    intro side fault he
    rw [ entry?, hg, Option.bind_some] at he
    split at he
    · exact (Fetch.origin_of_entry he).imp_left And.left
    · contradiction
  · intro hanswer later
    have hd : f.result.isDelivered = true := by simpa [f.cancelAnswer_eq] using hanswer
    rw [steps_append, steps_append, steps_uncancelled hf hd, hdropped]
  · intro later
    have hsame := sameBeside_uncancelled i ((fresh sink).steps row) (.cancel i :: later)
    rwa [hdropped, ← steps_append, ← steps_append] at hsame

/-- Of two fetches, the first has sent its metadata request and still waits with the
certificate call. -/
def halfSentRow : List Step :=
  [.fetch sampleName sampleKey, .fetch sampleName sampleKey, .begin 0 .metadata,
    .send 0 .metadata]

/-- The first fetch is cancelled, which the metadata reply and the second fetch cross. -/
def crossingRow : List Step :=
  [.begin 1 .metadata, .finish 0 (.metadata (.ok ⟨"10.0.0.5", "", "", "abc123"⟩)),
    .propagate 0 .metadata, .notify 0 .metadata, .send 1 .metadata, .propagate 0 .certificate,
    .notify 0 .certificate, .settle 0]

/-- The cancelled fetch ends with its metadata call answered, never sends a certificate
request, and does not hold back the second fetch. -/
theorem cancel_laws_crossing :
    ∃ f g, ((fresh .silent).steps halfSentRow).fetches[0]? = some f ∧ f.cancelAnswer = true ∧
      ((fresh .silent).steps (halfSentRow ++ .cancel 0 :: crossingRow)).fetches[0]? = some g ∧
      g.result = .cancelled ∧
      g.metadata.outcome? = some (.returned ⟨"10.0.0.5", "", "", "abc123"⟩) ∧
      (∀ later r, (0, r) ∈ ((fresh .silent).steps
        (halfSentRow ++ .cancel 0 :: crossingRow ++ later)).requests → r.side ≠ .certificate) ∧
      SameBeside 0 ((fresh .silent).steps (halfSentRow ++ .cancel 0 :: crossingRow))
        ((fresh .silent).steps (halfSentRow ++ uncancelled 0 crossingRow)) := by
  have hf : ((fresh .silent).steps halfSentRow).fetches[0]? = some _ := rfl
  obtain ⟨hends, hsends, _, _, _, hsame⟩ := cancel_laws hf
  obtain ⟨g, hg, hresult⟩ := hends crossingRow
  obtain ⟨g', hg', hnever⟩ := hsends crossingRow (by rintro (_ | _) <;> simp [crossingRow])
  cases hg.symm.trans hg'
  cases hg
  exact ⟨_, _, hf, rfl, rfl, hresult.mp rfl, rfl, hnever .certificate rfl, hsame crossingRow⟩

end InstanceLink
