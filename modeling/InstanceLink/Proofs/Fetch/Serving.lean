import InstanceLink.Proofs.Fetch.Accepting
import InstanceLink.Proofs.Fetch.Isolation
import InstanceLink.Proofs.Fetch.Settling

/-!
# Fetches that are served at once

An executor that finishes every call before a fetch is given back adds one fetch to the session:
both its calls are over with what they met, and its result is what they combine to, unless the log
call for that is left by a fault. The result is open then, and a caller with a deadline gives the
fetch up. It has sent one metadata request, and one certificate request if that could be built,
whatever the other call ended with.
-/

namespace InstanceLink

/-- The request that a step sends for the fetch it concerns. -/
def Session.Step.sends? (f : Fetch) : Session.Step → Option Request
  | .send _ side => f.sending? side
  | _ => none

/-- A step sends what it sends for the fetch it concerns. -/
theorem Session.sent?_eq {s : Session} {i : Nat} {f : Fetch} {st : Session.Step}
    (hf : s.fetches[i]? = some f) (hi : st.position? = some i) :
    s.sent? st = (st.sends? f).map fun r => (i, r) := by
  cases st with
  | send j side =>
    cases hi
    rw [sent?, hf]
    rfl
  | _ => rfl

/-- The end of a certificate call that meets a reply: the fault of the key where its request
cannot be built, and the reply otherwise. -/
def certificateEnd (key : ClientKey) (reply : Except Fault CertificateResponse) :
    Outcome CertificateResponse :=
  match key with
  | .ok _ => Call.answered reply
  | .error fault => .raised fault

/-- The requests that a served fetch sends: that of the metadata call, and that of the
certificate call if it can be built. -/
def servedRequests (name : InstanceName) (key : ClientKey) : List Request :=
  metadataRequest name :: (certificateRequest name key).toOption.toList

namespace Fetch

variable (name : InstanceName) (key : ClientKey) (sink : LogSink) (m : Outcome MetadataResponse)
  (c : Outcome CertificateResponse)

/-- A fetch whose calls are both over and notified, with some result. -/
def noted (result : FetchResult) : Fetch :=
  ⟨name, key, sink, ⟨.over m, true⟩, ⟨.over c, true⟩, result, none⟩

/-- A fetch that was served: its result is what both ends combine to, once that is announced. -/
def served : Fetch :=
  noted name key sink m c ((fresh name key sink).announce (combine m c)).result

end Fetch

namespace Timeout

/-- What a caller that waits for a result is given when it stays open: nothing without a deadline,
and a failure otherwise. -/
def lapse (timeout : Timeout) : Waited :=
  match timeout.unrepresentable? with
  | some fault => some (.error fault)
  | none =>
    if timeout = .unlimited then none
    else some (.error (.connector (deadlineFailure timeout .deadline)))

/-- The wait for an open result gives no bundle. -/
theorem lapse_ne_ok (timeout : Timeout) (info : ConnectionInfo) :
    timeout.lapse ≠ some (.ok info) := by
  unfold lapse
  split
  · simp
  · split <;> simp

end Timeout

namespace Fetcher

/-- A fetcher differs from another by one further fetch and the requests that this one has
sent. -/
structure Adds (x y : Fetcher) (f : Fetch) (sent : List Request) : Prop where
  executor : y.executor = x.executor
  client : y.client = x.client
  sink : y.session.sink = x.session.sink
  shutDown : y.session.shutDown = x.session.shutDown
  fetches : y.session.fetches = x.session.fetches ++ [f]
  requests : y.session.requests =
    x.session.requests ++ sent.map fun r => (x.session.fetches.length, r)

variable {x y : Fetcher} {f : Fetch} {sent : List Request}

/-- The further fetch stands behind all others. -/
theorem Adds.getElem? (h : x.Adds y f sent) :
    y.session.fetches[x.session.fetches.length]? = some f := by
  rw [h.fetches, List.getElem?_concat_length]

/-- What refuses a fetch is the same as before. -/
theorem Adds.refusal?_eq (h : x.Adds y f sent) (name : InstanceName) :
    y.session.refusal? name = x.session.refusal? name := by
  rw [Session.refusal?, Session.refusal?, h.sink, h.shutDown]

/-- A fetch that is not refused is a further one. -/
theorem adds_fetch {name : InstanceName} (hopen : x.session.refusal? name = none)
    (key : ClientKey) :
    x.Adds (x.take [.fetch name key]) (Fetch.fresh name key x.session.sink) [] := by
  refine ⟨rfl, rfl, rfl, ?_, ?_, ?_⟩ <;> simp [take, Session.steps, Session.step, hopen]

/-- A step that concerns the further fetch moves that one. -/
theorem Adds.take (h : x.Adds y f sent) (st : Session.Step)
    (hi : st.position? = some x.session.fetches.length) :
    x.Adds (y.take [st]) (st.move f) (sent ++ (st.sends? f).toList) := by
  refine ⟨h.executor, h.client, (Session.sink_step y.session st).trans h.sink, ?_, ?_, ?_⟩
  · exact (Session.shutDown_step_of_position? y.session hi).trans h.shutDown
  · refine (Session.fetches_step_of_position? y.session hi).trans ?_
    rw [h.fetches, List.modify_eq_set_getElem?, List.getElem?_concat_length,
      Option.map_eq_map, Option.map_some, Option.getD_some,
      List.set_append_right _ _ (Nat.le_refl _), Nat.sub_self, List.set_cons_zero]
  · refine (Session.requests_step y.session st).trans ?_
    rw [Session.sent?_eq h.getElem? hi, h.requests, List.map_append, List.append_assoc]
    cases st.sends? f <;> rfl

/-- How many requests of a call were sent: those sent before, and those of the further
fetch. -/
theorem Adds.sentCount (h : x.Adds y f sent) (side : Side) :
    y.session.sentCount side =
      x.session.sentCount side + (sent.filter fun r => r.side = side).length := by
  rw [Session.sentCount, Session.sentCount, h.requests, List.filter_append, List.length_append,
    List.filter_map, List.length_map]
  rfl

/-- A call that is taken up and meets a reply sends its request and is answered. -/
theorem Adds.work (h : x.Adds y f sent) {side : Side} {reply : Reply}
    (hreply : x.client.reply? side
      (x.session.sentCount side + (sent.filter fun r => r.side = side).length) = some reply) :
    x.Adds (y.work x.session.fetches.length side) ((f.send side).finish reply)
      (sent ++ (f.sending? side).toList) := by
  have hsent := h.take (.send _ side) rfl
  have hanswered := hsent.take (.finish _ reply) rfl
  simp only [Session.Step.sends?, Option.toList_none, List.append_nil] at hanswered
  simp only [Fetcher.work, h.sentCount, hsent.client, hreply]
  exact hanswered

/-- A notification of the further fetch is given, and what it holds is set. -/
theorem Adds.notify (h : x.Adds y f sent) (side : Side) :
    x.Adds (y.notify x.session.fetches.length side).1 (f.notify side).settle sent := by
  have hset := (h.take (.notify _ side) rfl).take (.settle _) rfl
  simp only [Session.Step.sends?, Option.toList_none, List.append_nil] at hset
  exact hset

variable {name : InstanceName} {key : ClientKey} {a : Except Fault MetadataResponse}
  {b : Except Fault CertificateResponse}

/-- The replies that the next two calls of a fetcher meet can be reported. -/
structure Meets (x : Fetcher) (a : Except Fault MetadataResponse)
    (b : Except Fault CertificateResponse) : Prop where
  metadata : AdminClient.turn x.client.metadata (x.session.sentCount .metadata) = .reply a
  certificate : AdminClient.turn x.client.certificate (x.session.sentCount .certificate) = .reply b

/-- The metadata call of a further fetch is worked off first. -/
theorem Adds.workMetadata (h : x.Adds y (Fetch.fresh name key x.session.sink) [])
    (hmeets : x.Meets a b) :
    x.Adds ((y.take [.begin x.session.fetches.length .metadata]).work
      x.session.fetches.length .metadata)
      { Fetch.fresh name key x.session.sink with metadata := ⟨.over (Call.answered a), false⟩ }
      [metadataRequest name] := by
  have hreply : x.client.reply? .metadata (x.session.sentCount .metadata + 0) =
      some (.metadata a) := by
    rw [AdminClient.reply?, Nat.add_zero, hmeets.metadata]
  exact (h.take (.begin _ .metadata) rfl).work hreply

/-- The certificate call of a further fetch is worked off after the metadata call. -/
theorem Adds.workCertificate {call : Call MetadataResponse} {result : FetchResult}
    (h : x.Adds y ⟨name, key, x.session.sink, call, .fresh, result, none⟩ [metadataRequest name])
    (hmeets : x.Meets a b) :
    x.Adds ((y.take [.begin x.session.fetches.length .certificate]).work
      x.session.fetches.length .certificate)
      ⟨name, key, x.session.sink, call, ⟨.over (certificateEnd key b), false⟩, result, none⟩
      (servedRequests name key) := by
  have hreply : x.client.reply? .certificate (x.session.sentCount .certificate + 0) =
      some (.certificate b) := by
    rw [AdminClient.reply?, Nat.add_zero, hmeets.certificate]
  have hworked := (h.take (.begin _ .certificate) rfl).work hreply
  cases key <;> exact hworked

/-- A call that waits for a worker or is over is not with one. -/
theorem isRunning_eq_false {i : Nat} {side : Side}
    (h : ∀ f, x.session.fetches[i]? = some f → f.isWaiting side = true ∨ f.isOver side = true) :
    x.isRunning i side = false := by
  unfold isRunning
  cases hf : x.session.fetches[i]? with
  | none => rfl
  | some f =>
    obtain ⟨fname, fkey, fsink, ⟨metadata, _⟩, ⟨certificate, _⟩, result, deciding⟩ := f
    have hstate := h _ hf
    cases side with
    | metadata =>
      cases metadata with
      | begun => rcases hstate with hs | hs <;> contradiction
      | sent => rcases hstate with hs | hs <;> contradiction
      | _ => rfl
    | certificate =>
      cases certificate with
      | begun => rcases hstate with hs | hs <;> contradiction
      | sent => rcases hstate with hs | hs <;> contradiction
      | _ => rfl

/-- A call is queued exactly when it waits for a worker. -/
theorem isQueued_of_getElem? {i : Nat} (hf : x.session.fetches[i]? = some f) (side : Side) :
    x.isQueued i side = f.isWaiting side := by
  obtain ⟨fname, fkey, fsink, ⟨metadata, _⟩, ⟨certificate, _⟩, result, deciding⟩ := f
  unfold isQueued
  rw [hf]
  cases side with
  | metadata => cases metadata <;> rfl
  | certificate => cases certificate <;> rfl

/-- Calls that do not wait are not offered to a worker. -/
theorem foldl_offer_eq_self {calls : List (Nat × Side)}
    (h : ∀ call ∈ calls, x.isQueued call.1 call.2 = false) : calls.foldl offer x = x := by
  induction calls with
  | nil => rfl
  | cons call rest ih =>
    obtain ⟨hcall, hrest⟩ := List.forall_mem_cons.mp h
    have hoffer : x.offer call = x := by
      unfold offer
      rw [hcall]
      split <;> rfl
    rw [List.foldl_cons, hoffer]
    exact ih hrest

/-- No call of a fetcher waits or is with a worker. -/
def IsIdle (x : Fetcher) : Prop :=
  ∀ f ∈ x.session.fetches, ∀ side, f.isOver side = true

/-- Beside a fetch whose calls wait or are over, no worker of an idle fetcher is busy. -/
theorem Adds.busy (h : x.Adds y f sent) (hidle : x.IsIdle)
    (hf : ∀ side, f.isWaiting side = true ∨ f.isOver side = true) : y.busy = 0 := by
  rw [Fetcher.busy, List.length_eq_zero_iff, List.filter_eq_nil_iff]
  rintro ⟨i, side⟩ _
  refine Bool.eq_false_iff.mp (isRunning_eq_false fun g hg => ?_)
  rw [h.fetches] at hg
  rcases List.mem_append.mp (List.mem_of_getElem? hg) with hg | hg
  · exact .inr (hidle g hg side)
  · rw [List.mem_singleton.mp hg]
    exact hf side

/-- A call of the further fetch that waits is offered to a free worker, who works it off and
notifies its end. -/
theorem Adds.offer (h : x.Adds y f sent) {workers : Nat} (hpool : x.executor = .pool workers)
    (hworkers : 0 < workers) (hidle : x.IsIdle)
    (hf : ∀ side, f.isWaiting side = true ∨ f.isOver side = true) (side : Side)
    (hw : f.isWaiting side = true)
    (hfault : stopping (((y.take [.begin x.session.fetches.length side]).work
      x.session.fetches.length side).notify x.session.fetches.length side).2 = none) :
    y.offer (x.session.fetches.length, side) =
      (((y.take [.begin x.session.fetches.length side]).work
        x.session.fetches.length side).notify x.session.fetches.length side).1 := by
  have hqueued : y.isQueued x.session.fetches.length side = true := by
    rw [isQueued_of_getElem? h.getElem?, hw]
  rw [Fetcher.offer, h.executor, hpool]
  simp only [hqueued, h.busy hidle hf, hworkers, decide_true, Bool.and_self, if_true, finish,
    hfault]

/-- The calls of the further fetch are the last in the order of submission. -/
theorem Adds.callOrder (h : x.Adds y f sent) :
    ∃ earlier, y.callOrder = earlier ++ [(x.session.fetches.length, .metadata),
        (x.session.fetches.length, .certificate)] ∧
      ∀ call ∈ earlier, call.1 < x.session.fetches.length := by
  refine ⟨(List.range x.session.fetches.length).flatMap fun i =>
      [(i, .metadata), (i, .certificate)],
    ?_, ?_⟩
  · rw [Fetcher.callOrder, h.fetches, List.length_append, List.length_singleton, List.range_succ,
      List.flatMap_append]
    rfl
  · rintro ⟨i, side⟩ hcall
    simp only [List.mem_flatMap, List.mem_range] at hcall
    obtain ⟨j, hj, hcall⟩ := hcall
    simp only [List.mem_cons, Prod.mk.injEq, List.not_mem_nil, or_false] at hcall
    omega

/-- No call of an idle fetcher is queued. -/
theorem Adds.isQueued_eq_false (h : x.Adds y f sent) (hidle : x.IsIdle) {i : Nat}
    (hi : i < x.session.fetches.length) (side : Side) : y.isQueued i side = false := by
  have hg : y.session.fetches[i]? = some x.session.fetches[i] := by
    rw [h.fetches, List.getElem?_append_left hi, List.getElem?_eq_getElem hi]
  have hover := hidle _ (List.getElem_mem hi) side
  rw [isQueued_of_getElem? hg]
  cases side with
  | metadata => exact Call.isWaiting_of_isOver hover
  | certificate => exact Call.isWaiting_of_isOver hover

/-- A fetch that its caller gives up while its result is open is cancelled, and nothing else
changes: both its calls are over. -/
theorem Adds.cancel {m : Outcome MetadataResponse} {c : Outcome CertificateResponse}
    (h : x.Adds y (Fetch.noted name key x.session.sink m c .pending) sent) :
    x.Adds (y.cancel x.session.fetches.length)
      (Fetch.noted name key x.session.sink m c .cancelled) sent := by
  have hcancelled := h.take (.cancel _) rfl
  have hmetadata := ((hcancelled.take (.propagate _ .metadata) rfl).take
    (.notify _ .metadata) rfl).take (.settle _) rfl
  have hcertificate := ((hmetadata.take (.propagate _ .certificate) rfl).take
    (.notify _ .certificate) rfl).take (.settle _) rfl
  simp only [Session.Step.sends?, Option.toList_none, List.append_nil] at hcertificate
  exact hcertificate

/-- What a caller that waits for a served fetch is given, however long it would wait: what the two
ends combine to, if that can be announced, and what the wait for an open result gives, if not. -/
structure Gives (sink : LogSink) (name : InstanceName) (joined : Joined) (timeout : Timeout)
    (waited : Waited) : Prop where
  calm : sink.IsCalm name joined →
    ∃ answer, joined.result.answer? = some answer ∧ waited = some (timeout.heeded answer)
  lapsed : ¬sink.IsCalm name joined → waited = timeout.lapse

/-- A caller that waits is given a bundle only if the two ends combine to that. -/
theorem Gives.bundle {sink : LogSink} {joined : Joined} {timeout : Timeout} {waited : Waited}
    (h : Gives sink name joined timeout waited) {info : ConnectionInfo}
    (hinfo : waited = some (.ok info)) : joined = .bundle info := by
  by_cases hcalm : sink.IsCalm name joined
  · obtain ⟨answer, hanswer, hwaited⟩ := h.calm hcalm
    rw [hinfo, eq_comm, Option.some.injEq, Timeout.heeded_eq_ok_iff] at hwaited
    subst hwaited
    cases joined with
    | bundle other =>
      cases hanswer
      rfl
    | failed error => cases hanswer
    | escaped fault => cases hanswer
  · exact absurd ((h.lapsed hcalm).symm.trans hinfo) (timeout.lapse_ne_ok info)

/-- A caller that waits for an open result is given what that wait gives, and at most gives the
fetch up. -/
theorem wait_of_open {i : Nat} (h : x.result i = .pending) (timeout : Timeout) :
    (x.wait i timeout).2 = timeout.lapse ∧
      ((x.wait i timeout).1 = x ∨ (x.wait i timeout).1 = x.cancel i) := by
  have hanswer : (x.result i).answer? = none := by
    rw [h]
    rfl
  rw [wait, Timeout.lapse, hanswer]
  cases timeout.unrepresentable? with
  | some fault => exact ⟨rfl, .inl rfl⟩
  | none =>
    by_cases hlimited : timeout = .unlimited
    · simp only [hlimited, if_true, true_or, and_self]
    · simp only [if_neg hlimited, or_true, and_self]

variable (h : x.Adds y (Fetch.fresh name key x.session.sink) []) (hmeets : x.Meets a b)
  (hm : (Call.answered a).isReportable = true) (hc : (certificateEnd key b).isReportable = true)

include h hmeets hm hc

/-- An executor that runs both calls at once serves a further fetch. -/
theorem Adds.runInline :
    x.Adds (y.runInline x.session.fetches.length).1
      (Fetch.served name key x.session.sink (Call.answered a) (certificateEnd key b))
      (servedRequests name key) ∧ (y.runInline x.session.fetches.length).2 = none := by
  have hm' := Outcome.neverStops_of_isReportable hm
  have hc' := Outcome.neverStops_of_isReportable hc
  have hworked := (h.workMetadata hmeets).workCertificate hmeets
  -- Both calls are over before either is notified: the first notification sets the result.
  have hnotified := hworked.notify .metadata
  rw [Fetch.settle_notify rfl (Fetch.joined?_of_combined? rfl) (.inl rfl)] at hnotified
  have hserved := hnotified.notify .certificate
  rw [Fetch.settle_notify rfl (Fetch.joined?_of_combined? rfl) (.inr rfl)] at hserved
  have hfirst := stopping_notify hworked.getElem? ⟨.of_over rfl hm', .of_over rfl hc'⟩ .metadata
  have hsecond :=
    stopping_notify hnotified.getElem? ⟨.of_over rfl hm', .of_over rfl hc'⟩ .certificate
  simp only [Fetcher.runInline, hfirst]
  exact ⟨hserved, hsecond⟩

/-- A pool whose workers are free serves a further fetch. -/
theorem Adds.runPool {workers : Nat} (hpool : x.executor = .pool workers) (hworkers : 0 < workers)
    (hidle : x.IsIdle) :
    x.Adds y.runPool
      (Fetch.served name key x.session.sink (Call.answered a) (certificateEnd key b))
      (servedRequests name key) := by
  have hm' := Outcome.neverStops_of_isReportable hm
  have hc' := Outcome.neverStops_of_isReportable hc
  -- The metadata call is notified before the other is over, so it does not enter the join.
  have hworked := h.workMetadata hmeets
  have hnotified := hworked.notify .metadata
  have hboth := hnotified.workCertificate hmeets
  have hserved := hboth.notify .certificate
  rw [Fetch.settle_notify rfl (Fetch.joined?_of_combined? rfl) (.inl rfl)] at hserved
  have hfirst := stopping_notify hworked.getElem? ⟨.of_over rfl hm', .of_open rfl⟩ .metadata
  have hsecond := stopping_notify hboth.getElem? ⟨.of_over rfl hm', .of_over rfl hc'⟩ .certificate
  obtain ⟨earlier, horder, hearlier⟩ := h.callOrder
  have hskipped := foldl_offer_eq_self fun call hcall =>
    h.isQueued_eq_false hidle (hearlier call hcall) call.2
  have hmetadata := h.offer hpool hworkers hidle (fun side => by cases side <;> exact .inl rfl)
    .metadata rfl hfirst
  have hcertificate := hnotified.offer hpool hworkers hidle
    (fun side => by cases side; exacts [.inr rfl, .inl rfl]) .certificate rfl hsecond
  rw [Fetcher.runPool, horder, List.foldl_append, hskipped, List.foldl_cons, List.foldl_cons,
    List.foldl_nil, hmetadata, hcertificate]
  exact hserved

omit h

/-- Whether an executor finishes both calls of a fetch before it gives that back: it runs
them at once, or its workers have nothing else to do. -/
def FinishesAtOnce (x : Fetcher) : Prop :=
  match x.executor with
  | .manual => False
  | .inline => True
  | .pool workers => 0 < workers ∧ x.IsIdle

/-- A fetch of an executor that finishes both its calls at once is served when it is given
back. -/
theorem fetch_served (hopen : x.session.refusal? name = none) (hfinishes : x.FinishesAtOnce) :
    ∃ y, x.fetch name key = (y, .ok x.session.fetches.length) ∧
      x.Adds y (Fetch.served name key x.session.sink (Call.answered a) (certificateEnd key b))
        (servedRequests name key) := by
  have hadds := adds_fetch hopen key
  unfold FinishesAtOnce at hfinishes
  cases he : x.executor with
  | manual =>
    rw [he] at hfinishes
    contradiction
  | inline =>
    obtain ⟨hserved, hfault⟩ := hadds.runInline hmeets hm hc
    refine ⟨_, ?_, hserved⟩
    simp only [fetch, hopen, hadds.executor, he, hfault, Option.elim_none]
  | pool workers =>
    rw [he] at hfinishes
    refine ⟨_, ?_, hadds.runPool hmeets hm hc he hfinishes.1 hfinishes.2⟩
    simp only [fetch, hopen, hadds.executor, he]

/-- The caller that waits for such a fetch is given what its two ends combine to, and the fetch is
over when it goes on. -/
theorem fetchAndWait_served (hopen : x.session.refusal? name = none)
    (hfinishes : x.FinishesAtOnce) (timeout : Timeout) :
    ∃ y waited result, x.fetchAndWait name key timeout = (y, waited) ∧
      Gives x.session.sink name (combine (Call.answered a) (certificateEnd key b)) timeout waited ∧
      x.Adds y (Fetch.noted name key x.session.sink (Call.answered a) (certificateEnd key b) result)
        (servedRequests name key) := by
  obtain ⟨y, hfetch, hadds⟩ := fetch_served hmeets hm hc hopen hfinishes
  rw [Fetch.served] at hadds
  simp only [fetchAndWait, hfetch]
  by_cases hcalm : x.session.sink.IsCalm name (combine (Call.answered a) (certificateEnd key b))
  · have ha : (Fetch.fresh name key x.session.sink).announce
        (combine (Call.answered a) (certificateEnd key b)) =
          combine (Call.answered a) (certificateEnd key b) :=
      Fetch.announce_combine hm hc hcalm
    rw [ha] at hadds
    obtain ⟨answer, hanswer⟩ : ∃ answer,
        (combine (Call.answered a) (certificateEnd key b)).result.answer? = some answer := by
      cases hj : combine (Call.answered a) (certificateEnd key b) with
      | bundle info => exact ⟨_, rfl⟩
      | failed error => exact ⟨_, rfl⟩
      | escaped fault => exact absurd hj (combine_ne_escaped hm hc fault)
    exact ⟨y, _, _, wait_of_answer hadds.getElem? hanswer,
      ⟨fun _ => ⟨answer, hanswer, rfl⟩, fun hlog => absurd hcalm hlog⟩, hadds⟩
  · -- The failure cannot be announced, so the result stays open and is given up by the deadline.
    obtain ⟨fault, ha⟩ :=
      (Fetch.fresh name key x.session.sink).exists_announce_eq_escaped hcalm
    rw [ha] at hadds
    obtain ⟨hlapse, hleft⟩ := wait_of_open (result_of_getElem? hadds.getElem?) timeout
    have hgives : Gives x.session.sink name
        (combine (Call.answered a) (certificateEnd key b)) timeout
        (y.wait x.session.fetches.length timeout).2 :=
      ⟨fun h => absurd h hcalm, fun _ => hlapse⟩
    rcases hleft with hleft | hleft
    · exact ⟨_, _, _, Prod.ext hleft rfl, hgives, hadds⟩
    · exact ⟨_, _, _, Prod.ext hleft rfl, hgives, hadds.cancel⟩

end Fetcher

end InstanceLink
