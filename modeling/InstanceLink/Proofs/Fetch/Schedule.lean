import InstanceLink.Fetch.Executor

/-!
# Executors as orders of steps

Whatever an executor does with the calls it is given, it does by single steps of the
session, and the replies it hands on are those of its client. A fetcher is always the
outcome of a run, so what holds of every run holds for every executor, by hand, inline or
with any number of workers.
-/

namespace InstanceLink

/-- The steps that an executor takes of its own to work calls off. Replies are those that
the client gives. -/
def AdminClient.Drives (client : AdminClient) : Session.Step → Prop
  | .begin _ _ | .send _ _ | .notify _ _ | .settle _ => True
  | .finish _ reply => ∃ side number, client.reply? side number = some reply
  | .fetch _ _ | .cancelCall _ _ | .cancel _ | .propagate _ _ | .shutDown | .beginClose
  | .closeTransport => False

namespace Fetcher

/-- A later state of the same fetcher, reached by single steps of its session. -/
def Advances (x y : Fetcher) : Prop := ∃ row, y.session = x.session.steps row

/-- A fetcher left alone advances by no step. -/
theorem Advances.refl (x : Fetcher) : x.Advances x := ⟨[], rfl⟩

/-- Steps taken one after the other are steps. -/
theorem Advances.trans {x y z : Fetcher} (hxy : x.Advances y) (hyz : y.Advances z) :
    x.Advances z := by
  obtain ⟨row, hy⟩ := hxy
  obtain ⟨later, hz⟩ := hyz
  exact ⟨row ++ later, by rw [hz, hy, Session.steps_append]⟩

/-- Taking steps advances by them. -/
theorem advances_take (x : Fetcher) (row : List Session.Step) : x.Advances (x.take row) :=
  ⟨row, rfl⟩

/-- A later state of the same fetcher, reached by steps that its executor takes of its
own. -/
structure WorksOff (x y : Fetcher) : Prop where
  client : y.client = x.client
  steps : ∃ row, (∀ st ∈ row, x.client.Drives st) ∧ y.session = x.session.steps row

/-- A fetcher left alone works off nothing. -/
theorem WorksOff.refl (x : Fetcher) : x.WorksOff x := ⟨rfl, [], nofun, rfl⟩

/-- Work done piece by piece is work. -/
theorem WorksOff.trans {x y z : Fetcher} (hxy : x.WorksOff y) (hyz : y.WorksOff z) :
    x.WorksOff z := by
  obtain ⟨hyc, row, hrow, hy⟩ := hxy
  obtain ⟨hzc, later, hlater, hz⟩ := hyz
  refine ⟨hzc.trans hyc, row ++ later, ?_, by rw [hz, hy, Session.steps_append]⟩
  intro st hst
  rcases List.mem_append.mp hst with hst | hst
  · exact hrow st hst
  · exact hyc ▸ hlater st hst

/-- Work advances by its steps. -/
theorem WorksOff.advances {x y : Fetcher} (h : x.WorksOff y) : x.Advances y := by
  obtain ⟨_, row, _, hy⟩ := h
  exact ⟨row, hy⟩

/-- An executor works off by the steps that it takes of its own. -/
theorem worksOff_take {x : Fetcher} {row : List Session.Step}
    (h : ∀ st ∈ row, x.client.Drives st) : x.WorksOff (x.take row) :=
  ⟨rfl, row, h, rfl⟩

/-- Taking a call up is work. -/
theorem worksOff_begin (x : Fetcher) (fetch : Nat) (side : Side) :
    x.WorksOff (x.take [.begin fetch side]) :=
  worksOff_take (List.forall_mem_singleton.mpr trivial)

/-- A begun call is worked off to its end. -/
theorem worksOff_work (x : Fetcher) (fetch : Nat) (side : Side) :
    x.WorksOff (x.work fetch side) := by
  have hsend : x.WorksOff (x.take [.send fetch side]) :=
    worksOff_take (List.forall_mem_singleton.mpr trivial)
  simp only [work]
  split
  next reply hr => exact hsend.trans (worksOff_take (List.forall_mem_singleton.mpr ⟨side, _, hr⟩))
  next => exact hsend

/-- A notification is work. -/
theorem worksOff_notify (x : Fetcher) (fetch : Nat) (side : Side) :
    x.WorksOff (x.notify fetch side).1 :=
  worksOff_take (List.forall_mem_cons.mpr ⟨trivial, List.forall_mem_singleton.mpr trivial⟩)

/-- A call is worked off to its end and notified. -/
theorem worksOff_finish (x : Fetcher) (fetch : Nat) (side : Side) :
    x.WorksOff (x.finish fetch side).1 :=
  (x.worksOff_work fetch side).trans (worksOff_notify _ _ _)

/-- Both calls are worked off at once, up to where a fault cuts them short. -/
theorem worksOff_runInline (x : Fetcher) (fetch : Nat) : x.WorksOff (x.runInline fetch).1 := by
  have hmetadata := (x.worksOff_begin fetch .metadata).trans (worksOff_work _ fetch .metadata)
  have hcertificate := (hmetadata.trans (worksOff_begin _ fetch .certificate)).trans
    (worksOff_work _ fetch .certificate)
  have hnotified := hcertificate.trans (worksOff_notify _ fetch .metadata)
  simp only [runInline]
  split
  · exact hnotified
  · exact hnotified.trans (worksOff_notify _ _ _)

/-- A worker that takes up a queued call works it off. -/
theorem worksOff_offer (x : Fetcher) (call : Nat × Side) : x.WorksOff (x.offer call) := by
  have hrun := (x.worksOff_begin call.1 call.2).trans (worksOff_finish _ call.1 call.2)
  unfold offer
  split
  · split
    · dsimp only
      split
      · exact ⟨hrun.client, hrun.steps⟩
      · exact hrun
    · exact .refl x
  · exact .refl x

/-- The pool works off its queue. -/
theorem worksOff_runPool (x : Fetcher) : x.WorksOff x.runPool := by
  have hqueue : ∀ (calls : List (Nat × Side)) (x : Fetcher), x.WorksOff (calls.foldl offer x) := by
    intro calls
    induction calls with
    | nil => exact .refl
    | cons call rest ih => exact fun x => (x.worksOff_offer call).trans (ih _)
  exact hqueue x.callOrder x

/-- Once a fetch is asked for, the executor works off what it does at once. -/
theorem worksOff_fetch (x : Fetcher) (name : InstanceName) (key : ClientKey) :
    (x.take [.fetch name key]).WorksOff (x.fetch name key).1 := by
  simp only [fetch]
  split
  · exact .refl _
  · split
    · exact .refl _
    · exact worksOff_runPool _
    · exact worksOff_runInline _ _

/-- A fetch is started by steps, whatever the executor does at once. -/
theorem advances_fetch (x : Fetcher) (name : InstanceName) (key : ClientKey) :
    x.Advances (x.fetch name key).1 :=
  (x.advances_take [.fetch name key]).trans (x.worksOff_fetch name key).advances

/-- The fetchers that some client, executor and order of steps lead to, whatever their log calls
meet. -/
inductive Reachable : Fetcher → Prop where
  | fresh (executor : Executor) (client : AdminClient) (sink : LogSink) :
      Reachable (.fresh executor client sink)
  /-- The outside takes one more step. -/
  | take {x : Fetcher} (st : Session.Step) : Reachable x → Reachable (x.take [st])
  /-- A further fetch is asked for, and the executor does what it does at once. -/
  | fetch {x : Fetcher} (name : InstanceName) (key : ClientKey) :
      Reachable x → Reachable (x.fetch name key).1

/-- The session of every reachable fetcher is a run. -/
theorem Reachable.session_eq_steps {x : Fetcher} (h : x.Reachable) :
    ∃ sink row, x.session = (Session.fresh sink).steps row := by
  have hrun : ∃ sink, (Fetcher.fresh x.executor x.client sink).Advances x := by
    induction h with
    | fresh executor client sink => exact ⟨sink, .refl _⟩
    | take st _ ih =>
      obtain ⟨sink, ih⟩ := ih
      exact ⟨sink, ih.trans (advances_take _ [st])⟩
    | fetch name key _ ih =>
      obtain ⟨sink, ih⟩ := ih
      exact ⟨sink, ih.trans (advances_fetch _ name key)⟩
  exact hrun

end Fetcher

end InstanceLink
