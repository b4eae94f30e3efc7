import InstanceLink.Proofs.Fetch.Origin
import InstanceLink.Proofs.Fetch.Schedule

/-!
# Fetches that an executor accepts

Where neither the replies of a client nor its key ever ask the program to stop, every executor that
accepts work gives a fetch back at its position, whatever else its calls end with. Where the ends
can be reported and no log call is left by a fault, a fetch comes to what its ends combine to.
-/

namespace InstanceLink

namespace Outcome

variable {α : Type}

/-- What a call ended with never asks the program to stop. -/
def NeverStops (o : Outcome α) : Prop := ∀ fault, o = .raised fault → fault.NeverStops

/-- An end that can be reported never asks the program to stop. -/
theorem neverStops_of_isReportable {o : Outcome α} (h : o.isReportable = true) :
    o.NeverStops := by
  rintro fault rfl
  exact Fault.neverStops_of_isReportable h

/-- A call that is answered what never asks the program to stop ends so. -/
theorem neverStops_answered {reply : Except Fault α}
    (h : ∀ fault, reply = .error fault → fault.NeverStops) : (Call.answered reply).NeverStops := by
  cases reply with
  | ok value => nofun
  | error fault =>
    rintro raised ⟨⟩ cause hcause
    rcases leadsTo_of_raisedFor hcause with ⟨_, rfl⟩ | hlead
    · rfl
    · exact h fault rfl cause hlead

end Outcome

/-- The fault that a key raises, if it does, never asks the program to stop. -/
def ClientKey.NeverStops (key : ClientKey) : Prop := ∀ fault, key = .error fault → fault.NeverStops

/-- What a reply raises, if it does, never asks the program to stop. -/
def Reply.NeverStops : Reply → Prop
  | .metadata reply => ∀ fault, reply = .error fault → fault.NeverStops
  | .certificate reply => ∀ fault, reply = .error fault → fault.NeverStops

/-- No reply that a client gives ever asks the program to stop. -/
def AdminClient.NeverStops (client : AdminClient) : Prop :=
  ∀ side number reply, client.reply? side number = some reply → reply.NeverStops

/-- A reply that a call meets stands in the row of behaviours. -/
theorem AdminClient.mem_of_turn {α : Type} {row : List (Behaviour α)} {number : Nat}
    {reply : Except Fault α} (h : turn row number = .reply reply) : .reply reply ∈ row := by
  rw [turn] at h
  cases hn : row[number]? with
  | some behaviour =>
    rw [hn, Option.getD_some] at h
    exact h ▸ List.mem_of_getElem? hn
  | none =>
    rw [hn, Option.getD_none] at h
    cases hl : row.getLast? with
    | some behaviour =>
      rw [hl, Option.getD_some] at h
      exact h ▸ List.mem_of_getLast? hl
    | none =>
      rw [hl] at h
      contradiction

/-- No reply of a client asks the program to stop when the faults in its rows never do. -/
theorem AdminClient.neverStops_of_rows {client : AdminClient}
    (hm : ∀ fault, .reply (.error fault) ∈ client.metadata → fault.NeverStops)
    (hc : ∀ fault, .reply (.error fault) ∈ client.certificate → fault.NeverStops) :
    client.NeverStops := by
  intro side number reply h
  cases side with
  | metadata =>
    rw [reply?] at h
    split at h
    next r hr =>
      cases h
      rintro fault rfl
      exact hm fault (mem_of_turn hr)
    next => contradiction
  | certificate =>
    rw [reply?] at h
    split at h
    next r hr =>
      cases h
      rintro fault rfl
      exact hc fault (mem_of_turn hr)
    next => contradiction

/-- The fault that a key raises, if it does, can be reported. -/
def ClientKey.IsReportable (key : ClientKey) : Prop :=
  ∀ fault, key = .error fault → fault.isReportable = true

/-- A call that is answered a fault that can be reported ends with what that is handled to. -/
theorem Call.raisedFor_of_isReportable {fault : Fault} (h : fault.isReportable = true) :
    raisedFor fault = .connector (handle fault) := by
  rw [raisedFor, Fault.isStop_of_isReportable h,
    classified_eq_ok_iff.mpr ⟨Fault.obstacle?_of_isReportable h, rfl⟩]
  rfl

/-- A call that is answered what can be reported ends so. -/
theorem Outcome.isReportable_answered {α : Type} {reply : Except Fault α}
    (h : ∀ fault, reply = .error fault → fault.isReportable = true) :
    (Call.answered reply).isReportable = true := by
  cases reply with
  | ok value => rfl
  | error fault =>
    have hf := h fault rfl
    obtain ⟨⟨terminal, ht⟩, hw⟩ := Fault.handle_of_isReportable hf
    rw [Call.answered, isReportable, Call.raisedFor_of_isReportable hf, Fault.isReportable, ht, hw]
    rfl

/-- A reply that never asks the program to stop ends its call so. -/
theorem Reply.endsIn_of_neverStops {reply : Reply} (h : reply.NeverStops) :
    reply.EndsIn Outcome.NeverStops Outcome.NeverStops := by
  cases reply with
  | metadata reply => exact Outcome.neverStops_answered h
  | certificate reply => exact Outcome.neverStops_answered h

/-- The log call for the failure that a join comes to, if it comes to one, is left by no fault. -/
def LogSink.IsCalm (sink : LogSink) (name : InstanceName) (joined : Joined) : Prop :=
  ∀ error, joined = .failed error → sink.fault? (FetchEvent.failureRecord name error) = none

/-- Above the level of warnings, as by default, no log call for a failure is left by a fault. -/
theorem LogSink.isCalm_of_threshold {sink : LogSink}
    (h : LogLevel.warning.number < sink.threshold) (name : InstanceName) (joined : Joined) :
    sink.IsCalm name joined :=
  fun _ _ => fault?_of_not_isShown (decide_eq_false (Int.not_le.mpr h))

/-- A bundle comes with no log call. -/
theorem LogSink.isCalm_bundle (sink : LogSink) (name : InstanceName) (info : ConnectionInfo) :
    sink.IsCalm name (.bundle info) := by
  intro error h
  cases h

section

variable {m : Outcome MetadataResponse} {c : Outcome CertificateResponse}
  (hm : m.isReportable = true) (hc : c.isReportable = true)

include hm hc

/-- No fault leaves the join of two ends that can be reported. -/
theorem combine_ne_escaped (fault : Fault) : combine m c ≠ .escaped fault := fun h =>
  not_disrupts_of_isReportable hm hc fault (combine_eq_escaped_iff.mp h).1

/-- Two ends that can be reported fail with what can be written. -/
theorem textFault?_of_combine {error : ConnectorError} (h : combine m c = .failed error) :
    error.textFault? = none := by
  rcases combine_eq_failed_cases h with ⟨a, b, fault, _, _, ha, rfl⟩ | hd | ⟨hs, _⟩
  · rcases assemble_error ha with rfl | ⟨cause, rfl⟩ <;> rfl
  · exact absurd hd (not_disrupts_of_isReportable hm hc _)
  · rcases mem_countedFailures.mp (surfacedAmong_spec hs).1 with he | he
    · exact (Outcome.failure?_of_isReportable hm he).2
    · exact (Outcome.failure?_of_isReportable hc he).2

/-- Where the log call for it is left by no fault, two ends that can be reported come to what they
combine to. -/
theorem Fetch.announce_combine {f : Fetch} (hcalm : f.sink.IsCalm f.name (combine m c)) :
    f.announce (combine m c) = combine m c := by
  rcases f.announce_cases (combine m c) with h | ⟨error, fault, he, ha, _⟩
  · exact h
  · rw [announceFault?, textFault?_of_combine hm hc he, Option.none_or, hcalm error he] at ha
    contradiction

end

/-- Where the log call for it is left by a fault, what two ends combine to does not come about. -/
theorem Fetch.exists_announce_eq_escaped {f : Fetch} {joined : Joined}
    (h : ¬f.sink.IsCalm f.name joined) : ∃ fault, f.announce joined = .escaped fault := by
  obtain ⟨error, rfl, hlog⟩ : ∃ error, joined = .failed error ∧
      f.sink.fault? (FetchEvent.failureRecord f.name error) ≠ none := by
    simpa only [LogSink.IsCalm, not_forall, exists_prop] using h
  rcases f.announce_cases (.failed error) with ha | ⟨_, fault, _, _, ha⟩
  · have hnone : f.announceFault? error = none := by
      by_contra hsome
      obtain ⟨fault, hfault⟩ := Option.ne_none_iff_exists'.mp hsome
      rw [announce, hfault] at ha
      cases ha
    exact absurd (Option.or_eq_none_iff.mp hnone).2 hlog
  · exact ⟨fault, ha⟩

namespace Fetch

/-- What the calls of a fetch ended with, as far as they are over, never asks the program to
stop. -/
def NeverStops (f : Fetch) : Prop := f.Ends Outcome.NeverStops Outcome.NeverStops

/-- A fault that leaves a notification of such a fetch does not ask the program to stop. -/
theorem NeverStops.entry_escaped {f : Fetch} (h : f.NeverStops) {fault : Fault}
    (he : f.entry = some (.escaped fault)) : fault.isStop = false := by
  have hends : ∀ raised, (f.metadata.outcome? = some (.raised raised) ∨
      f.certificate.outcome? = some (.raised raised)) → raised.NeverStops := by
    rintro raised (hm | hc)
    · exact h.metadata _ hm raised rfl
    · exact h.certificate _ hc raised rfl
  rcases origin_of_entry he with ⟨_, hraised⟩ | rfl | ⟨raised, hraised, hlead⟩ | ⟨error, _, hlog⟩
  · exact hends fault hraised fault .refl
  · rfl
  · exact hends raised hraised fault hlead.to_reflTransGen
  · obtain ⟨cause, rfl⟩ := LogSink.exists_cause_of_fault? hlog
    rfl

end Fetch

/-- Nothing refuses a fetch while the executor accepts work and the log call for it is left by no
fault. -/
theorem Session.refusal?_eq_none {s : Session} {name : InstanceName}
    (hlog : s.sink.fault? (FetchEvent.fetching name).record = none) (hopen : s.shutDown = false) :
    s.refusal? name = none := by
  rw [refusal?, hlog, hopen]
  rfl

namespace Fetcher

variable {x y : Fetcher} {i : Nat} {f : Fetch} {key : ClientKey}

/-- While an executor works off, the calls of a fetch never ask the program to stop as long as
neither the replies nor its key do. -/
theorem WorksOff.neverStops (h : x.WorksOff y) (hclient : x.client.NeverStops)
    (hf : x.session.fetches[i]? = some f) (hkey : f.key.NeverStops) (hends : f.NeverStops) :
    ∃ g, y.session.fetches[i]? = some g ∧ g.key = f.key ∧ g.NeverStops := by
  obtain ⟨_, row, hrow, hy⟩ := h
  rw [hy]
  refine Session.ends_steps hf hends nofun nofun ?_ ?_
  · rintro fault hf raised ⟨⟩
    exact hkey fault hf
  intro reply hr
  obtain ⟨side, number, hreply⟩ := hrow _ hr
  exact Reply.endsIn_of_neverStops (hclient side number reply hreply)

/-- No fault of a notification goes beyond the executor while the ends of the fetch never ask the
program to stop. -/
theorem stopping_notify (hf : x.session.fetches[i]? = some f) (hends : f.NeverStops)
    (side : Side) : stopping (x.notify i side).2 = none := by
  rw [notify]
  split
  next fault he =>
    rw [ Session.entry?, hf, Option.bind_some] at he
    split at he
    · exact if_neg (Bool.eq_false_iff.mp (hends.entry_escaped he))
    · contradiction
  next => rfl

/-- Both calls run at once, and no fault cuts them short while nothing asks the program to stop. -/
theorem runInline_fault (hclient : x.client.NeverStops) (hf : x.session.fetches[i]? = some f)
    (hkey : f.key.NeverStops) (hends : f.NeverStops) : (x.runInline i).2 = none := by
  have hworked := (((x.worksOff_begin i .metadata).trans (worksOff_work _ i .metadata)).trans
    (worksOff_begin _ i .certificate)).trans (worksOff_work _ i .certificate)
  obtain ⟨g, hg, _, hgends⟩ := hworked.neverStops hclient hf hkey hends
  obtain ⟨h, hh, _, hhends⟩ :=
    (hworked.trans (worksOff_notify _ i .metadata)).neverStops hclient hf hkey hends
  simp only [runInline, stopping_notify hg hgends]
  exact stopping_notify hh hhends .certificate

/-- An executor that accepts work gives every fetch back at its position, unless something asks the
program to stop. -/
theorem fetch_eq_ok {name : InstanceName} (hopen : x.session.refusal? name = none)
    (hclient : x.client.NeverStops) (hkey : key.NeverStops) :
    x.fetch name key = ((x.fetch name key).1, .ok x.session.fetches.length) := by
  have hinline : ((x.take [.fetch name key]).runInline x.session.fetches.length).2 = none :=
    runInline_fault hclient (Session.getElem?_step_fetch hopen key) hkey
      (Fetch.ends_fresh name key _)
  simp only [fetch, hopen]
  split
  · rfl
  · rfl
  · rw [hinline]
    rfl

end Fetcher

end InstanceLink
