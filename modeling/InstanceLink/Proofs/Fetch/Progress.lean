import InstanceLink.Fetch.Session

/-!
# Progress of single fetches

A step of a session concerns at most one fetch. Work on the calls of a fetch leaves
its result and its join alone, and a call that is over keeps its outcome for good.
The view of a session from one position, with the failures logged for it, carries a
fact about one fetch through every run.
-/

namespace InstanceLink

namespace Call

variable {α : Type}

/-- A later state of the same call: what is over stays as it ended, and no
notification is given on the way. -/
structure Follows (before after : Call α) : Prop where
  /-- An outcome is never replaced. -/
  outcome : ∀ o, before.outcome? = some o → after.outcome? = some o
  notified : after.notified = before.notified

/-- A call left alone follows itself. -/
theorem Follows.refl (c : Call α) : c.Follows c := ⟨fun _ h => h, rfl⟩

/-- A call without an outcome may become anything that owes as much. -/
theorem Follows.of_open {before after : Call α} (ho : before.outcome? = none)
    (hn : after.notified = before.notified) : before.Follows after := by
  refine ⟨?_, hn⟩
  intro o h
  rw [ho] at h
  contradiction

/-- What is over stays over. -/
theorem Follows.isOver {before after : Call α} (h : before.Follows after)
    (ho : before.isOver = true) : after.isOver = true := by
  obtain ⟨o, hb⟩ := Option.isSome_iff_exists.mp ho
  exact Option.isSome_iff_exists.mpr ⟨o, h.outcome o hb⟩

/-- Taking a call up replaces no outcome. -/
theorem follows_begin (c : Call α) : c.Follows c.begin := by
  obtain ⟨state, notified⟩ := c
  cases state with
  | queued => exact .of_open rfl rfl
  | _ => exact .refl _

/-- Sending, or failing to build the request, replaces no outcome. -/
theorem follows_send (request : Except Fault Request) (c : Call α) :
    c.Follows (c.send request) := by
  obtain ⟨state, notified⟩ := c
  cases state with
  | begun => cases request <;> exact .of_open rfl rfl
  | _ => exact .refl _

/-- A reply replaces no outcome. -/
theorem follows_finish (reply : Except Fault α) (c : Call α) : c.Follows (c.finish reply) := by
  obtain ⟨state, notified⟩ := c
  cases state with
  | sent => exact .of_open rfl rfl
  | _ => exact .refl _

/-- A cancellation replaces no outcome. -/
theorem follows_cancel (c : Call α) : c.Follows c.cancel := by
  obtain ⟨state, notified⟩ := c
  cases state with
  | queued => exact .of_open rfl rfl
  | _ => exact .refl _

end Call

namespace Fetch

/-- Work on the calls of a fetch: its result and its join are left alone. -/
structure Works (before after : Fetch) : Prop where
  name : after.name = before.name
  sink : after.sink = before.sink
  metadata : before.metadata.Follows after.metadata
  certificate : before.certificate.Follows after.certificate
  result : after.result = before.result
  deciding : after.deciding = before.deciding

/-- Doing nothing is work. -/
theorem Works.refl (f : Fetch) : f.Works f := ⟨rfl, rfl, .refl _, .refl _, rfl, rfl⟩

/-- Taking a call up is work. -/
theorem works_begin (f : Fetch) (side : Side) : f.Works (f.begin side) := by
  cases side with
  | metadata => exact ⟨rfl, rfl, Call.follows_begin _, .refl _, rfl, rfl⟩
  | certificate => exact ⟨rfl, rfl, .refl _, Call.follows_begin _, rfl, rfl⟩

/-- Sending a request is work. -/
theorem works_send (f : Fetch) (side : Side) : f.Works (f.send side) := by
  cases side with
  | metadata => exact ⟨rfl, rfl, Call.follows_send (f.request .metadata) _, .refl _, rfl, rfl⟩
  | certificate => exact ⟨rfl, rfl, .refl _, Call.follows_send (f.request .certificate) _, rfl, rfl⟩

/-- Receiving a reply is work. -/
theorem works_finish (f : Fetch) (reply : Reply) : f.Works (f.finish reply) := by
  cases reply with
  | metadata reply => exact ⟨rfl, rfl, Call.follows_finish _ _, .refl _, rfl, rfl⟩
  | certificate reply => exact ⟨rfl, rfl, .refl _, Call.follows_finish _ _, rfl, rfl⟩

/-- Cancelling a queued call is work. -/
theorem works_cancelCall (f : Fetch) (side : Side) : f.Works (f.cancelCall side) := by
  cases side with
  | metadata => exact ⟨rfl, rfl, Call.follows_cancel _, .refl _, rfl, rfl⟩
  | certificate => exact ⟨rfl, rfl, .refl _, Call.follows_cancel _, rfl, rfl⟩

/-- Passing a cancellation on is work, whether or not the result was cancelled. -/
theorem works_propagate (f : Fetch) (side : Side) : f.Works (f.propagate side) := by
  unfold propagate
  split
  · exact works_cancelCall f side
  · exact .refl f

/-- What is final in a fetch: its name, what its log calls meet, the outcomes of its calls, and its
result once that is settled. -/
structure Keeps (before after : Fetch) : Prop where
  name : after.name = before.name
  sink : after.sink = before.sink
  metadata : ∀ m, before.metadata.outcome? = some m → after.metadata.outcome? = some m
  certificate : ∀ c, before.certificate.outcome? = some c → after.certificate.outcome? = some c
  result : before.result.isDone = true → after.result = before.result

/-- A fetch left alone keeps what is final. -/
theorem Keeps.refl (f : Fetch) : f.Keeps f :=
  ⟨rfl, rfl, fun _ h => h, fun _ h => h, fun _ => rfl⟩

/-- What is final stays final. -/
theorem Keeps.trans {f g h : Fetch} (hfg : f.Keeps g) (hgh : g.Keeps h) : f.Keeps h := by
  refine ⟨hgh.name.trans hfg.name, hgh.sink.trans hfg.sink,
    fun m hm => hgh.metadata m (hfg.metadata m hm),
    fun c hc => hgh.certificate c (hfg.certificate c hc), ?_⟩
  intro hd
  have hr := hfg.result hd
  rw [hgh.result (by rw [hr, hd]), hr]

/-- Work keeps what is final. -/
theorem Works.keeps {f g : Fetch} (h : f.Works g) : f.Keeps g :=
  ⟨h.name, h.sink, h.metadata.outcome, h.certificate.outcome, fun _ => h.result⟩

/-- A notification leaves the result alone. -/
theorem result_notify (f : Fetch) (side : Side) : (f.notify side).result = f.result := by
  unfold notify
  split
  · cases side <;> rfl
  · rfl

/-- A notification keeps what is final. -/
theorem keeps_notify (f : Fetch) (side : Side) : f.Keeps (f.notify side) := by
  unfold notify
  split
  · cases side <;> exact ⟨rfl, rfl, fun _ h => h, fun _ h => h, fun _ => rfl⟩
  · exact .refl f

/-- Setting what the join holds keeps what is final. -/
theorem keeps_settle (f : Fetch) : f.Keeps f.settle := by
  unfold settle
  split
  next info hd hp => exact ⟨rfl, rfl, fun _ h => h, fun _ h => h, by rw [hp]; nofun⟩
  next error hd hp => exact ⟨rfl, rfl, fun _ h => h, fun _ h => h, by rw [hp]; nofun⟩
  next => exact ⟨rfl, rfl, fun _ h => h, fun _ h => h, fun _ => rfl⟩

/-- A cancellation keeps what is final. -/
theorem keeps_cancel (f : Fetch) : f.Keeps f.cancel := by
  unfold cancel
  split
  next hp => exact ⟨rfl, rfl, fun _ h => h, fun _ h => h, by rw [hp]; nofun⟩
  next => exact .refl f

end Fetch

/-- The position of the fetch whose failure an event reports. -/
def FetchEvent.position? : FetchEvent → Option Nat
  | .failing fetch _ _ => some fetch
  | _ => none

namespace Session

/-- The position of the fetch a step concerns. -/
def Step.position? : Step → Option Nat
  | .begin i _ | .send i _ | .finish i _ | .cancelCall i _ | .notify i _ | .settle i | .cancel i
  | .propagate i _ => some i
  | .fetch _ _ | .shutDown | .beginClose | .closeTransport => none

/-- What a step does to the fetch it concerns. -/
def Step.move (f : Fetch) : Step → Fetch
  | .begin _ side => f.begin side
  | .send _ side => f.send side
  | .finish _ reply => f.finish reply
  | .cancelCall _ side => f.cancelCall side
  | .notify _ side => f.notify side
  | .settle _ => f.settle
  | .cancel _ => f.cancel
  | .propagate _ side => f.propagate side
  | .fetch _ _ | .shutDown | .beginClose | .closeTransport => f

/-- The failure a step logs for the fetch it concerns: a notification that enters the
join logs what it is about to fail with. -/
def Step.report? (f : Fetch) : Step → Option ConnectorError
  | .notify _ side => if f.canNotify side = true then f.reported? else none
  | _ => none

/-- The failures logged for the fetch at a position, in order. -/
def failings (s : Session) (i : Nat) : List FetchEvent :=
  s.events.filter fun e => e.position? = some i

/-- A step is silent work, or a notification, or sets the result, or cancels it. -/
theorem Step.move_cases (f : Fetch) (st : Step) :
    (f.Works (st.move f) ∧ st.report? f = none) ∨
      (∃ i side, st = .notify i side) ∨ (∃ i, st = .settle i) ∨ (∃ i, st = .cancel i) := by
  cases st with
  | fetch name key => exact .inl ⟨.refl f, rfl⟩
  | begin i side => exact .inl ⟨f.works_begin side, rfl⟩
  | send i side => exact .inl ⟨f.works_send side, rfl⟩
  | finish i reply => exact .inl ⟨f.works_finish reply, rfl⟩
  | cancelCall i side => exact .inl ⟨f.works_cancelCall side, rfl⟩
  | propagate i side => exact .inl ⟨f.works_propagate side, rfl⟩
  | notify i side => exact .inr (.inl ⟨i, side, rfl⟩)
  | settle i => exact .inr (.inr (.inl ⟨i, rfl⟩))
  | cancel i => exact .inr (.inr (.inr ⟨i, rfl⟩))
  | shutDown => exact .inl ⟨.refl f, rfl⟩
  | beginClose => exact .inl ⟨.refl f, rfl⟩
  | closeTransport => exact .inl ⟨.refl f, rfl⟩

/-- A step moves the fetch it concerns, or leaves the fetches alone, or adds one. -/
theorem fetches_step (s : Session) (st : Step) :
    (∃ i, st.position? = some i ∧ (s.step st).fetches = s.fetches.modify i fun f => st.move f) ∨
      (st.position? = none ∧ ((s.step st).fetches = s.fetches ∨
        ∃ name key, (s.step st).fetches = s.fetches ++ [Fetch.fresh name key s.sink])) := by
  cases st with
  | fetch name key =>
    refine .inr ⟨rfl, ?_⟩
    simp only [step]
    split
    · exact .inr ⟨name, key, rfl⟩
    · exact .inl (List.append_nil _)
  | begin i side => exact .inl ⟨i, rfl, rfl⟩
  | send i side => exact .inl ⟨i, rfl, rfl⟩
  | finish i reply => exact .inl ⟨i, rfl, rfl⟩
  | cancelCall i side => exact .inl ⟨i, rfl, rfl⟩
  | notify i side => exact .inl ⟨i, rfl, rfl⟩
  | settle i => exact .inl ⟨i, rfl, rfl⟩
  | cancel i => exact .inl ⟨i, rfl, rfl⟩
  | propagate i side => exact .inl ⟨i, rfl, rfl⟩
  | shutDown => exact .inr ⟨rfl, .inl rfl⟩
  | beginClose =>
    refine .inr ⟨rfl, .inl ?_⟩
    simp only [step]
    split <;> rfl
  | closeTransport =>
    refine .inr ⟨rfl, .inl ?_⟩
    simp only [step]
    split <;> rfl

/-- The fetch a step concerns is moved; every other one is left alone. -/
theorem getElem?_step {s : Session} {i : Nat} {f : Fetch} (hf : s.fetches[i]? = some f)
    (st : Step) :
    (s.step st).fetches[i]? = some (if st.position? = some i then st.move f else f) := by
  rcases fetches_step s st with ⟨j, hj, he⟩ | ⟨hj, he | ⟨name, key, he⟩⟩
  · rw [he, List.getElem?_modify, hf, hj]
    simp
  · rw [he, hf, hj]
    simp
  · have hlt : i < s.fetches.length := (List.getElem?_eq_some_iff.mp hf).1
    rw [he, List.getElem?_append_left hlt, hf, hj]
    simp

/-- A step moves the fetch it concerns. -/
theorem getElem?_step_of_position? {s : Session} {i : Nat} {f : Fetch}
    (hf : s.fetches[i]? = some f) {st : Step} (hi : st.position? = some i) :
    (s.step st).fetches[i]? = some (st.move f) := by
  rw [getElem?_step hf, if_pos hi]

/-- A step leaves alone every fetch that it does not concern. -/
theorem getElem?_step_of_position?_ne {s : Session} {i : Nat} {f : Fetch}
    (hf : s.fetches[i]? = some f) {st : Step} (hi : st.position? ≠ some i) :
    (s.step st).fetches[i]? = some f := by
  rw [getElem?_step hf, if_neg hi]

/-- A fetch that was not there before a step has just been asked for. -/
theorem getElem?_step_of_none {s : Session} {i : Nat} {f : Fetch} (hn : s.fetches[i]? = none)
    {st : Step} (hf : (s.step st).fetches[i]? = some f) :
    ∃ name key, f = Fetch.fresh name key s.sink := by
  rcases fetches_step s st with ⟨j, hj, he⟩ | ⟨hj, he | ⟨name, key, he⟩⟩
  · rw [he, List.getElem?_modify, hn] at hf
    contradiction
  · rw [he, hn] at hf
    contradiction
  · rw [he, List.getElem?_append_right (List.getElem?_eq_none_iff.mp hn)] at hf
    exact ⟨name, key, List.mem_singleton.mp (List.mem_of_getElem? hf)⟩

/-- A fetch that is not refused stands behind all others. -/
theorem getElem?_step_fetch {s : Session} {name : InstanceName} (h : s.refusal? name = none)
    (key : ClientKey) :
    (s.step (.fetch name key)).fetches[s.fetches.length]? =
      some (Fetch.fresh name key s.sink) := by
  simp [step, h]

/-- What log calls meet stays the same. -/
theorem sink_step (s : Session) (st : Step) : (s.step st).sink = s.sink := by
  cases st with
  | beginClose =>
    simp only [step]
    split <;> rfl
  | closeTransport =>
    simp only [step]
    split <;> rfl
  | _ => rfl

/-- A notification logs what it reports for the fetch it concerns. -/
theorem notifyEvent?_eq (s : Session) (i : Nat) (side : Side) :
    s.notifyEvent? i side = (s.fetches[i]?).bind fun f =>
      ((Step.notify i side).report? f).map (.failing i f.name) := by
  unfold notifyEvent?
  cases s.fetches[i]? with
  | none => rfl
  | some f =>
    by_cases hc : f.canNotify side = true
    · simp only [Option.bind_some, Step.report?, if_pos hc]
    · simp only [Option.bind_some, Step.report?, if_neg hc]
      rfl

/-- A step adds to the failures of a fetch what it reports for it. -/
theorem failings_step (s : Session) (st : Step) (i : Nat) :
    (s.step st).failings i = s.failings i ++
      if st.position? = some i then
        ((s.fetches[i]?).bind fun f => (st.report? f).map (.failing i f.name)).toList
      else [] := by
  cases st with
  | notify j side =>
    simp only [step, failings, notifyEvent?_eq, Step.position?, List.filter_append]
    by_cases hj : j = i
    · subst hj
      cases s.fetches[j]? with
      | none => simp
      | some f => cases hr : (Step.notify j side).report? f <;> simp [hr, FetchEvent.position?]
    · cases s.fetches[j]? with
      | none => simp [hj]
      | some f => cases hr : (Step.notify j side).report? f <;> simp [hr, hj, FetchEvent.position?]
  | fetch name key => simp [step, failings, FetchEvent.position?, Step.position?]
  | beginClose =>
    simp only [step, failings]
    split <;> simp [FetchEvent.position?, Step.position?]
  | closeTransport =>
    simp only [step, failings]
    split <;> simp [Step.position?]
  | begin i side => simp [step, failings, update, Step.report?]
  | send i side => simp [step, failings, update, Step.report?]
  | finish i reply => simp [step, failings, update, Step.report?]
  | cancelCall i side => simp [step, failings, update, Step.report?]
  | settle i => simp [step, failings, update, Step.report?]
  | cancel i => simp [step, failings, update, Step.report?]
  | propagate i side => simp [step, failings, update, Step.report?]
  | shutDown => simp [step, failings, Step.position?]

/-- What the single steps of a row keep, the row keeps. -/
theorem steps_induction {Q : Session → Prop} {row : List Step}
    (hstep : ∀ s, ∀ st ∈ row, Q s → Q (s.step st)) {s : Session} (hs : Q s) :
    Q (s.steps row) := by
  induction row generalizing s with
  | nil => exact hs
  | cons st row ih =>
    have hrest : ∀ s, ∀ st ∈ row, Q s → Q (s.step st) :=
      fun s st hst => hstep s st (List.mem_cons_of_mem _ hst)
    exact ih hrest (hstep s st List.mem_cons_self hs)

/-- What the moves of a fetch in a row of steps keep, it keeps through the row. -/
theorem kept_by_steps {P : Fetch → Prop} {i : Nat} {row : List Step}
    (hmove : ∀ f : Fetch, ∀ st ∈ row, st.position? = some i → P f → P (st.move f))
    {s : Session} {f : Fetch} (hf : s.fetches[i]? = some f) (hp : P f) :
    ∃ g, (s.steps row).fetches[i]? = some g ∧ P g := by
  refine steps_induction (Q := fun s => ∃ g, s.fetches[i]? = some g ∧ P g) ?_ ⟨f, hf, hp⟩
  rintro s st hst ⟨g, hg, hp⟩
  refine ⟨_, getElem?_step hg st, ?_⟩
  split
  next hi => exact hmove g st hst hi hp
  next => exact hp

/-- What holds of a fresh fetch without failures, and is kept by its moves together with
what they report, holds of the fetch at the end of a run. -/
theorem fetch_of_steps {sink : LogSink} {P : Fetch → List FetchEvent → Prop} {i : Nat}
    {row : List Step} (hfresh : ∀ name key, P (Fetch.fresh name key sink) [])
    (hmove : ∀ (f : Fetch) (es : List FetchEvent), ∀ st ∈ row, st.position? = some i → P f es →
      P (st.move f) (es ++ ((st.report? f).map (.failing i f.name)).toList))
    {f : Fetch} (hf : ((fresh sink).steps row).fetches[i]? = some f) :
    P f (((fresh sink).steps row).failings i) := by
  -- A position without a fetch has no failures: the step that adds a fetch there
  -- must start it from none.
  let Q : Session → Prop := fun s => s.sink = sink ∧
    (∀ f, s.fetches[i]? = some f → P f (s.failings i)) ∧
      (s.fetches[i]? = none → s.failings i = [])
  have hstep : ∀ s, ∀ st ∈ row, Q s → Q (s.step st) := by
    rintro s st hst ⟨hsink, hsome, hnone⟩
    refine ⟨(sink_step s st).trans hsink, ?_⟩
    cases hg : s.fetches[i]? with
    | none =>
      have he : (s.step st).failings i = [] := by
        rw [failings_step, hnone hg, hg]
        simp
      refine ⟨?_, fun _ => he⟩
      intro f hf
      obtain ⟨name, key, rfl⟩ := getElem?_step_of_none hg hf
      rw [he, hsink]
      exact hfresh name key
    | some g =>
      have hmoved := getElem?_step hg st
      refine ⟨?_, ?_⟩
      · intro f hf
        rw [hmoved] at hf
        cases hf
        rw [failings_step, hg]
        split
        next hi => exact hmove g _ st hst hi (hsome g hg)
        next => simpa using hsome g hg
      · rw [hmoved]
        intro h
        contradiction
  have hQ : Q ((fresh sink).steps row) := by
    refine steps_induction hstep ⟨rfl, ?_, ?_⟩
    · intro f hf
      contradiction
    · intro _
      rfl
  exact hQ.2.1 f hf

/-- Every move keeps what is final. -/
theorem Step.keeps_move (f : Fetch) (st : Step) : f.Keeps (st.move f) := by
  rcases st.move_cases f with ⟨hw, _⟩ | ⟨i, side, rfl⟩ | ⟨i, rfl⟩ | ⟨i, rfl⟩
  · exact hw.keeps
  · exact f.keeps_notify side
  · exact f.keeps_settle
  · exact f.keeps_cancel

/-- What is final in a fetch is kept by every row of later steps. -/
theorem keeps_steps {s : Session} {i : Nat} {f : Fetch} (hf : s.fetches[i]? = some f)
    (row : List Step) : ∃ g, (s.steps row).fetches[i]? = some g ∧ f.Keeps g :=
  kept_by_steps (P := f.Keeps) (fun g st _ _ hg => hg.trans (st.keeps_move g)) hf (.refl f)

end Session

end InstanceLink
