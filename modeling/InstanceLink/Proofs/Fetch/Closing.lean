import InstanceLink.Proofs.Fetch.Cancelling
import InstanceLink.Proofs.Fetch.Retrying

/-!
# Fetchers that are used and closed

Fetches of a fetcher, with or without retries, close nothing and do not stop its executor.
Whatever was done with it, the transport of its client is closed at most once: a fetcher that
is closed after use has closed it once, also when closing raises.
-/

namespace InstanceLink

namespace Session

/-- How far closing has got: whether it was begun, how many callers are on their way, and how
often the transport was closed. -/
def closings (s : Session) : Bool × Nat × Nat := (s.closed, s.closing, s.closes)

/-- The steps that belong to fetches. -/
def Step.IsUse : Step → Prop
  | .shutDown | .beginClose | .closeTransport => False
  | _ => True

/-- The steps that belong to fetches taken up before. -/
def Step.IsHandling : Step → Prop
  | .fetch _ _ | .shutDown | .beginClose | .closeTransport => False
  | _ => True

/-- The steps that an executor takes to stop. -/
def Step.IsStop : Step → Prop
  | .shutDown | .cancelCall _ _ | .notify _ _ | .settle _ => True
  | _ => False

variable {s : Session} {st : Step}

/-- Only the two steps of closing get on with it. -/
theorem closings_step (hbegin : st ≠ .beginClose) (hclose : st ≠ .closeTransport) :
    (s.step st).closings = s.closings := by
  cases st with
  | beginClose => contradiction
  | closeTransport => contradiction
  | _ => rfl

/-- A fetch closes nothing and leaves the executor as it is. -/
theorem Step.IsUse.keeps (h : st.IsUse) (s : Session) :
    ((s.step st).closings, (s.step st).shutDown) = (s.closings, s.shutDown) := by
  refine Prod.ext (closings_step ?_ ?_) ?_
  · rintro rfl
    exact h
  · rintro rfl
    exact h
  · cases st with
    | shutDown => contradiction
    | beginClose => contradiction
    | closeTransport => contradiction
    | _ => rfl

/-- What belongs to fetches taken up before is use. -/
theorem Step.IsHandling.isUse (h : st.IsHandling) : st.IsUse := by
  cases st <;> trivial

/-- What belongs to fetches taken up before takes up no other. -/
theorem Step.IsHandling.keeps (h : st.IsHandling) (s : Session) :
    (s.step st).fetches.length = s.fetches.length := by
  cases st with
  | fetch name key => contradiction
  | shutDown => contradiction
  | beginClose => contradiction
  | closeTransport => contradiction
  | _ => simp [step, update]

/-- An executor that stops closes nothing, sends nothing and takes up no fetch. -/
theorem Step.IsStop.keeps (h : st.IsStop) (s : Session) :
    ((s.step st).closings, (s.step st).requests, (s.step st).fetches.length) =
      (s.closings, s.requests, s.fetches.length) := by
  cases st with
  | shutDown => rfl
  | cancelCall i side => simp [step, closings, update]
  | notify i side => simp [step, closings, update]
  | settle i => simp [step, closings, update]
  | _ => contradiction

/-- An executor that has stopped stays so. -/
theorem Step.IsStop.shutDown (h : st.IsStop) (hs : s.shutDown = true) :
    (s.step st).shutDown = true := by
  cases st with
  | shutDown => rfl
  | cancelCall i side => exact hs
  | notify i side => exact hs
  | settle i => exact hs
  | _ => contradiction

/-- No call of one side of a fetch waits for a worker. -/
def NoneWaits (s : Session) (fetch : Nat) (side : Side) : Prop :=
  ∀ f, s.fetches[fetch]? = some f → f.isWaiting side = false

/-- An executor that stops makes no call wait. -/
theorem NoneWaits.step {i : Nat} {side : Side} (h : s.NoneWaits i side) (hst : st.IsStop) :
    (s.step st).NoneWaits i side := by
  intro f hf
  cases hg : s.fetches[i]? with
  | none =>
    have hlength : (s.step st).fetches.length = s.fetches.length :=
      (Prod.mk.inj (Prod.mk.inj (hst.keeps s)).2).2
    have hlt := (List.getElem?_eq_some_iff.mp hf).1
    rw [hlength] at hlt
    exact absurd (List.getElem?_eq_none_iff.mp hg) (by omega)
  | some g =>
    rw [getElem?_step hg] at hf
    cases hf
    split
    · exact Step.isWaiting_move (h g hg) st
    · exact h g hg

/-- A call that is cancelled does not wait. -/
theorem noneWaits_cancelCall (s : Session) (i : Nat) (side : Side) :
    (s.step (.cancelCall i side)).NoneWaits i side := by
  intro f hf
  cases hg : s.fetches[i]? with
  | none =>
    simp only [Session.step, update, List.getElem?_modify, hg] at hf
    contradiction
  | some g =>
    rw [getElem?_step_of_position? hg rfl] at hf
    cases hf
    cases side with
    | metadata => exact Call.isWaiting_cancel _
    | certificate => exact Call.isWaiting_cancel _

/-- Every closing that was begun is on its way or done. -/
def IsAccounted (s : Session) : Prop := s.closes + s.closing = s.closed.toNat

/-- A step keeps account of what was begun. -/
theorem IsAccounted.step (h : s.IsAccounted) (st : Step) : (s.step st).IsAccounted := by
  unfold IsAccounted at h ⊢
  cases st with
  | beginClose =>
    simp only [Session.step]
    split
    · exact h
    · rename_i hopen
      simp only [Bool.not_eq_true] at hopen
      rw [hopen, Bool.toNat_false] at h
      simp only [Bool.toNat_true]
      omega
  | closeTransport =>
    simp only [Session.step]
    split
    · exact h
    · simp only
      omega
  | _ => exact h

/-- In every run, every closing that was begun is on its way or done. -/
theorem isAccounted_of_steps (sink : LogSink) (row : List Step) :
    ((fresh sink).steps row).IsAccounted :=
  steps_induction (fun _ st _ h => h.step st) rfl

/-- What keeps account closes the transport at most once. -/
theorem IsAccounted.closes_le_one (h : s.IsAccounted) : s.closes ≤ 1 := by
  have hclosed : s.closed.toNat ≤ 1 := Bool.toNat_le _
  unfold IsAccounted at h
  omega

/-- In every run, the transport is closed at most once. -/
theorem closes_le_one (sink : LogSink) (row : List Step) : ((fresh sink).steps row).closes ≤ 1 :=
  (isAccounted_of_steps sink row).closes_le_one

end Session

namespace Fetcher

/-- A later state of the same fetcher, reached by steps of one kind. -/
structure AdvancesBy (takes : Session.Step → Prop) (x y : Fetcher) : Prop where
  client : y.client = x.client
  steps : ∃ row, (∀ st ∈ row, takes st) ∧ y.session = x.session.steps row

variable {takes : Session.Step → Prop} {x y z : Fetcher} {name : InstanceName} {key : ClientKey}
  {timeout : Timeout}

/-- A fetcher left alone takes no step. -/
theorem AdvancesBy.refl (x : Fetcher) : x.AdvancesBy takes x := ⟨rfl, [], nofun, rfl⟩

/-- Steps of one kind may be taken one after the other. -/
theorem AdvancesBy.trans (hxy : x.AdvancesBy takes y) (hyz : y.AdvancesBy takes z) :
    x.AdvancesBy takes z := by
  obtain ⟨hyc, row, hrow, hy⟩ := hxy
  obtain ⟨hzc, later, hlater, hz⟩ := hyz
  refine ⟨hzc.trans hyc, row ++ later, ?_, by rw [hz, hy, Session.steps_append]⟩
  intro st hst
  rcases List.mem_append.mp hst with hst | hst
  · exact hrow st hst
  · exact hlater st hst

/-- A row of steps of one kind is taken. -/
theorem advancesBy_take {row : List Session.Step} (h : ∀ st ∈ row, takes st) :
    x.AdvancesBy takes (x.take row) :=
  ⟨rfl, row, h, rfl⟩

/-- What holds and is kept by each step of a kind holds afterwards. -/
theorem AdvancesBy.preserves {Q : Session → Prop} (h : x.AdvancesBy takes y)
    (hstep : ∀ s st, takes st → Q s → Q (s.step st)) (hx : Q x.session) : Q y.session := by
  obtain ⟨_, row, hrow, hy⟩ := h
  rw [hy]
  exact Session.steps_induction (fun s st hst => hstep s st (hrow st hst)) hx

/-- What no step of a kind changes is as it was. -/
theorem AdvancesBy.keeps {β : Type} (h : x.AdvancesBy takes y) (view : Session → β)
    (hstep : ∀ s st, takes st → view (s.step st) = view s) : view y.session = view x.session :=
  h.preserves (Q := fun s => view s = view x.session)
    (fun s st hst hs => (hstep s st hst).trans hs) rfl

/-- Steps of one kind are of every wider one. -/
theorem AdvancesBy.mono {wider : Session.Step → Prop} (h : x.AdvancesBy takes y)
    (hwider : ∀ st, takes st → wider st) : x.AdvancesBy wider y := by
  obtain ⟨hclient, row, hrow, hy⟩ := h
  exact ⟨hclient, row, fun st hst => hwider st (hrow st hst), hy⟩

/-- Work on calls takes up no fetch. -/
theorem WorksOff.advancesBy (h : x.WorksOff y) : x.AdvancesBy Session.Step.IsHandling y := by
  obtain ⟨hclient, row, hrow, hy⟩ := h
  refine ⟨hclient, row, fun st hst => ?_, hy⟩
  have hdrives := hrow st hst
  cases st <;> trivial

/-- Waiting takes up no fetch, also when the deadline cancels one. -/
theorem advancesBy_wait (x : Fetcher) (fetch : Nat) (timeout : Timeout) :
    x.AdvancesBy Session.Step.IsHandling (x.wait fetch timeout).1 := by
  have hcancel : x.AdvancesBy Session.Step.IsHandling (x.cancel fetch) := by
    refine advancesBy_take fun st hst => ?_
    simp only [List.mem_cons, List.not_mem_nil, or_false] at hst
    rcases hst with rfl | rfl | rfl | rfl | rfl | rfl | rfl <;> trivial
  unfold wait
  split
  · exact .refl x
  · split
    · exact .refl x
    · split
      · exact .refl x
      · exact hcancel

/-- The blocking form of a fetch takes up one fetch and no other. -/
theorem advancesBy_fetchAndWait (x : Fetcher) (name : InstanceName) (key : ClientKey)
    (timeout : Timeout) :
    (x.take [.fetch name key]).AdvancesBy Session.Step.IsHandling
      (x.fetchAndWait name key timeout).1 := by
  have hfetch := (x.worksOff_fetch name key).advancesBy
  unfold fetchAndWait
  split
  next y fault heq => rwa [heq] at hfetch
  next y position heq =>
    rw [heq] at hfetch
    exact hfetch.trans (advancesBy_wait y position timeout)

/-- A fetch is use. -/
theorem used_fetch (x : Fetcher) (name : InstanceName) (key : ClientKey) :
    x.AdvancesBy Session.Step.IsUse (x.fetch name key).1 :=
  (advancesBy_take (List.forall_mem_singleton.mpr trivial)).trans
    ((x.worksOff_fetch name key).advancesBy.mono fun _ hst => hst.isUse)

/-- The blocking form of a fetch is use. -/
theorem used_fetchAndWait (x : Fetcher) (name : InstanceName) (key : ClientKey)
    (timeout : Timeout) :
    x.AdvancesBy Session.Step.IsUse (x.fetchAndWait name key timeout).1 :=
  (advancesBy_take (List.forall_mem_singleton.mpr trivial)).trans
    ((x.advancesBy_fetchAndWait name key timeout).mono fun _ hst => hst.isUse)

/-- Attempts in a row are use. -/
theorem used_afterAttempts (x : Fetcher) (name : InstanceName) (key : ClientKey)
    (timeout : Timeout) (n : Nat) :
    x.AdvancesBy Session.Step.IsUse (x.afterAttempts name key timeout n) := by
  induction n with
  | zero => exact .refl x
  | succ n ih => exact ih.trans (used_fetchAndWait _ name key timeout)

/-- A fetch with retries is use. -/
theorem used_fetchWithRetry (x : Fetcher) (name : InstanceName) (key : ClientKey)
    (timeout : Timeout) :
    x.AdvancesBy Session.Step.IsUse (x.fetchWithRetry name key timeout).fetcher := by
  obtain ⟨n, -, hretried, -⟩ := x.fetchWithRetry_eq name key timeout
  rw [hretried]
  exact x.used_afterAttempts name key timeout (n + 1)

/-- Use gets no further with closing. -/
theorem AdvancesBy.closings_eq (h : x.AdvancesBy Session.Step.IsUse y) :
    y.session.closings = x.session.closings :=
  h.keeps Session.closings fun s _ hst => (Prod.mk.inj (hst.keeps s)).1

/-- Use refuses no name that was not refused before. -/
theorem AdvancesBy.refusal?_eq (h : x.AdvancesBy Session.Step.IsUse y) (name : InstanceName) :
    y.session.refusal? name = x.session.refusal? name :=
  h.keeps (fun s => s.refusal? name) fun s st hst => by
    rw [Session.refusal?, Session.refusal?, Session.sink_step, (Prod.mk.inj (hst.keeps s)).2]

/-- The blocking form of a fetch takes up one fetch, unless that is refused. -/
theorem length_fetchAndWait (hopen : x.session.refusal? name = none) (key : ClientKey)
    (timeout : Timeout) :
    (x.fetchAndWait name key timeout).1.session.fetches.length = x.session.fetches.length + 1 := by
  have hkept := (x.advancesBy_fetchAndWait name key timeout).keeps
    (fun s => s.fetches.length) fun s _ hst => hst.keeps s
  refine hkept.trans ?_
  simp [take, Session.steps, Session.step, hopen]

/-- Attempts in a row take up a fetch each, unless that is refused. -/
theorem length_afterAttempts (hopen : x.session.refusal? name = none) (key : ClientKey)
    (timeout : Timeout) (n : Nat) :
    (x.afterAttempts name key timeout n).session.fetches.length =
      x.session.fetches.length + n := by
  induction n with
  | zero => rfl
  | succ n ih =>
    have hstill := ((x.used_afterAttempts name key timeout n).refusal?_eq name).trans hopen
    rw [← Nat.add_assoc, ← ih]
    exact length_fetchAndWait hstill key timeout

/-- Closing a fetcher that was only used since it was fresh closes the transport once, and raises
what the client raises then. -/
theorem close_of_used {executor : Executor} {client : AdminClient} {sink : LogSink}
    (h : (Fetcher.fresh executor client sink).AdvancesBy Session.Step.IsUse x) :
    x.close.2 = client.closeFault ∧ x.close.1.client = client ∧
      x.close.1.session.closings = (true, 0, 1) := by
  have hkept := h.keeps (fun s => (s.closings, s.shutDown)) fun s st hst => hst.keeps s
  have hclosings : x.session.closings = (false, 0, 0) := (Prod.mk.inj hkept).1
  simp only [Session.closings, Prod.mk.injEq] at hclosings
  obtain ⟨hclosed, hclosing, hcloses⟩ := hclosings
  have hclose : x.close = (x.take [.beginClose, .closeTransport], x.client.closeFault) := by
    simp only [close, hclosed, Bool.false_eq_true, if_false]
  rw [hclose]
  refine ⟨by rw [h.client]; rfl, h.client, ?_⟩
  simp [take, Session.steps, Session.step, Session.closings, hclosed, hclosing, hcloses]

end Fetcher

end InstanceLink
