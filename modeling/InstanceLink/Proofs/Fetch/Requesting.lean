import InstanceLink.Proofs.Fetch.Cancelling
import InstanceLink.Proofs.Fetch.Delivery
import InstanceLink.Proofs.Fetch.Serving
import InstanceLink.Proofs.Key.Block

/-!
# What a fetch asks for

Where a call stands tells which requests it has sent: none while it waits for a worker or has
just been taken up, none where it was cancelled, and otherwise its own request once, if that
could be built. A fetch therefore asks each of its two questions at most once, and by the time
its result is delivered it has asked both, whatever the other call ended with.
-/

namespace InstanceLink

namespace Call

variable {α : Type}

/-- The requests that a call has sent, by where it stands. -/
def asked (request : Except Fault Request) (c : Call α) : List Request :=
  match c.state with
  | .queued | .begun | .over .cancelled => []
  | .sent | .over _ => request.toOption.toList

/-- Whether a call was cancelled. -/
def isCancelled (c : Call α) : Bool :=
  match c.state with
  | .over .cancelled => true
  | _ => false

variable {c d : Call α} {request : Except Fault Request}

/-- What a call has sent is told by its state. -/
theorem asked_congr (h : c.state = d.state) : c.asked request = d.asked request := by
  rw [asked, asked, h]

/-- Whether a call was cancelled is told by its state. -/
theorem isCancelled_congr (h : c.state = d.state) : c.isCancelled = d.isCancelled := by
  rw [isCancelled, isCancelled, h]

/-- A reply does not count as a request. -/
theorem asked_finish (reply : Except Fault α) (c : Call α) :
    (c.finish reply).asked request = c.asked request := by
  obtain ⟨state, notified⟩ := c
  cases state with
  | sent => cases reply <;> rfl
  | _ => rfl

/-- Taking a call up sends nothing. -/
theorem asked_begin (c : Call α) : c.begin.asked request = c.asked request := by
  obtain ⟨state, notified⟩ := c
  cases state <;> rfl

/-- A cancellation sends nothing, and takes nothing back. -/
theorem asked_cancel (c : Call α) : c.cancel.asked request = c.asked request := by
  obtain ⟨state, notified⟩ := c
  cases state <;> rfl

/-- A call that is over and was not cancelled has sent its request, if that could be built. -/
theorem asked_of_isOver (ho : c.isOver = true) (hc : c.isCancelled = false) :
    c.asked request = request.toOption.toList := by
  obtain ⟨_ | _ | _ | outcome, notified⟩ := c
  · contradiction
  · contradiction
  · contradiction
  · cases outcome with
    | cancelled => contradiction
    | _ => rfl

/-- A call has sent its request, or nothing. -/
theorem asked_cases (request : Except Fault Request) (c : Call α) :
    c.asked request = [] ∨ c.asked request = request.toOption.toList := by
  obtain ⟨_ | _ | _ | outcome, notified⟩ := c
  · exact .inl rfl
  · exact .inl rfl
  · exact .inr rfl
  · cases outcome with
    | cancelled => exact .inl rfl
    | _ => exact .inr rfl

/-- Taking a call up cancels nothing. -/
theorem isCancelled_begin (c : Call α) : c.begin.isCancelled = c.isCancelled := by
  obtain ⟨state, notified⟩ := c
  cases state <;> rfl

/-- Sending cancels nothing. -/
theorem isCancelled_send (request : Except Fault Request) (c : Call α) :
    (c.send request).isCancelled = c.isCancelled := by
  obtain ⟨state, notified⟩ := c
  cases state with
  | begun => cases request <;> rfl
  | _ => rfl

/-- A reply cancels nothing, not even one that reports cancelled work. -/
theorem isCancelled_finish (reply : Except Fault α) (c : Call α) :
    (c.finish reply).isCancelled = c.isCancelled := by
  obtain ⟨state, notified⟩ := c
  cases state with
  | sent => cases reply <;> rfl
  | _ => rfl

end Call

namespace Fetch

/-- The requests that a call of the fetch has sent, by where it stands. -/
def asked (f : Fetch) : Side → List Request
  | .metadata => f.metadata.asked (f.request .metadata)
  | .certificate => f.certificate.asked (f.request .certificate)

/-- Whether a call of the fetch was cancelled. -/
def isCancelled (f : Fetch) : Side → Bool
  | .metadata => f.metadata.isCancelled
  | .certificate => f.certificate.isCancelled

variable {f g : Fetch} {side : Side}

/-- A change of the metadata call leaves the other one where it stands. -/
theorem alikeIn_metadata (f : Fetch) (c : Call MetadataResponse) (h : Side.metadata ≠ side) :
    { f with metadata := c }.AlikeIn side f :=
  ⟨rfl, rfl, fun hs => absurd hs.symm h, fun _ => rfl⟩

/-- A change of the certificate call leaves the other one where it stands. -/
theorem alikeIn_certificate (f : Fetch) (c : Call CertificateResponse)
    (h : Side.certificate ≠ side) : { f with certificate := c }.AlikeIn side f :=
  ⟨rfl, rfl, fun _ => rfl, fun hs => absurd hs.symm h⟩

/-- Calls that stand alike in fetches that ask for the same have sent the same. -/
theorem AlikeIn.asked (h : f.AlikeIn side g) : f.asked side = g.asked side := by
  cases side with
  | metadata => rw [Fetch.asked, Fetch.asked, h.request, Call.asked_congr (h.metadata rfl)]
  | certificate => rw [Fetch.asked, Fetch.asked, h.request, Call.asked_congr (h.certificate rfl)]

/-- Calls that stand alike were both cancelled or neither. -/
theorem AlikeIn.isCancelled (h : f.AlikeIn side g) : f.isCancelled side = g.isCancelled side := by
  cases side with
  | metadata => exact Call.isCancelled_congr (h.metadata rfl)
  | certificate => exact Call.isCancelled_congr (h.certificate rfl)

/-- A call of a fetch has sent its request, or nothing. -/
theorem asked_cases (f : Fetch) (side : Side) :
    f.asked side = [] ∨ f.asked side = (f.request side).toOption.toList := by
  cases side with
  | metadata => exact f.metadata.asked_cases _
  | certificate => exact f.certificate.asked_cases _

/-- A call that is asked to send adds what it sends to its requests. -/
theorem asked_send (f : Fetch) (side : Side) :
    (f.send side).asked side = f.asked side ++ (f.sending? side).toList := by
  obtain ⟨name, key, sink, ⟨metadata, _⟩, ⟨certificate, _⟩, result, deciding⟩ := f
  cases side with
  | metadata =>
    cases metadata with
    | begun => rfl
    | _ => exact (List.append_nil _).symm
  | certificate =>
    cases certificate with
    | begun => cases key <;> rfl
    | _ => exact (List.append_nil _).symm

/-- By the time a result is delivered, a call that was not cancelled has sent its request, if
that could be built. -/
theorem Coherent.asked_of_delivered (h : f.Coherent) (hd : f.result.isDelivered = true)
    (hc : f.isCancelled side = false) : f.asked side = (f.request side).toOption.toList := by
  obtain ⟨m, c, hm, hcert, _⟩ := h.combine_of_delivered hd
  cases side with
  | metadata => exact Call.asked_of_isOver (Option.isSome_of_mem hm) hc
  | certificate => exact Call.asked_of_isOver (Option.isSome_of_mem hcert) hc

end Fetch

namespace Session

/-- The call of a fetch that a step works on. A notification works on none. -/
def Step.side? : Step → Option Side
  | .begin _ side | .send _ side | .cancelCall _ side | .propagate _ side => some side
  | .finish _ reply => some reply.side
  | .notify _ _ | .settle _ | .cancel _ | .fetch _ _ | .shutDown | .beginClose
  | .closeTransport => none

variable {f : Fetch} {side : Side} {st : Step}

/-- A step leaves a call that it does not work on where it stands. -/
theorem Step.alikeIn_move (f : Fetch) (h : st.side? ≠ some side) :
    (st.move f).AlikeIn side f := by
  have hother : ∀ other, st.side? = some other → other ≠ side := by
    rintro other ho rfl
    exact h ho
  cases st with
  | begin i other =>
    cases other with
    | metadata => exact f.alikeIn_metadata _ (hother _ rfl)
    | certificate => exact f.alikeIn_certificate _ (hother _ rfl)
  | send i other =>
    cases other with
    | metadata => exact f.alikeIn_metadata _ (hother _ rfl)
    | certificate => exact f.alikeIn_certificate _ (hother _ rfl)
  | finish i reply =>
    cases reply with
    | metadata reply => exact f.alikeIn_metadata _ (hother _ rfl)
    | certificate reply => exact f.alikeIn_certificate _ (hother _ rfl)
  | cancelCall i other =>
    cases other with
    | metadata => exact f.alikeIn_metadata _ (hother _ rfl)
    | certificate => exact f.alikeIn_certificate _ (hother _ rfl)
  | propagate i other =>
    rw [move, Fetch.propagate]
    split
    · cases other with
      | metadata => exact f.alikeIn_metadata _ (hother _ rfl)
      | certificate => exact f.alikeIn_certificate _ (hother _ rfl)
    · exact .refl side f
  | notify i other => exact Fetch.alikeIn_notify side f other
  | settle i => exact Fetch.alikeIn_settle side f
  | cancel i => exact Fetch.alikeIn_cancel side f
  | fetch name key => exact .refl side f
  | shutDown => exact .refl side f
  | beginClose => exact .refl side f
  | closeTransport => exact .refl side f

/-- A step sends requests of the call that it works on only. -/
theorem Step.side?_of_sends? {r : Request} (h : st.sends? f = some r) : st.side? = some r.side := by
  cases st with
  | send i side => rw [side?, (Fetch.isTaken_of_sending? h).2]
  | _ => contradiction

/-- A step adds to the requests of a call what it sends for the call. -/
theorem Step.asked_move (f : Fetch) (st : Step) (side : Side) :
    (st.move f).asked side =
      f.asked side ++ (st.sends? f).toList.filter fun r => r.side = side := by
  have hnil : f.asked side = f.asked side ++ ([] : List Request) := (List.append_nil _).symm
  by_cases hs : st.side? = some side
  · cases st with
    | begin i other =>
      cases hs
      refine Eq.trans ?_ hnil
      cases side <;> exact Call.asked_begin _
    | send i other =>
      cases hs
      have hkept : ((f.sending? side).toList.filter fun r => r.side = side) =
          (f.sending? side).toList := by
        refine List.filter_eq_self.mpr fun r hr => decide_eq_true ?_
        exact (Fetch.isTaken_of_sending? (Option.mem_toList.mp hr)).2
      rw [sends?, hkept]
      exact f.asked_send side
    | finish i reply =>
      cases hs
      refine Eq.trans ?_ hnil
      cases reply <;> exact Call.asked_finish _ _
    | cancelCall i other =>
      cases hs
      refine Eq.trans ?_ hnil
      cases side <;> exact Call.asked_cancel _
    | propagate i other =>
      cases hs
      refine Eq.trans ?_ hnil
      rw [move, Fetch.propagate]
      split
      · cases side <;> exact Call.asked_cancel _
      · rfl
    | _ => contradiction
  · have hnone : (st.sends? f).toList.filter (fun r => r.side = side) = [] := by
      refine List.filter_eq_nil_iff.mpr fun r hr hside => ?_
      exact hs ((side?_of_sends? (Option.mem_toList.mp hr)).trans
        (congrArg some (of_decide_eq_true hside)))
    rw [hnone, List.append_nil]
    exact (alikeIn_move f hs).asked

/-- Only a cancellation of the call itself, or of the result, cancels a call. -/
theorem Step.isCancelled_move (hr : f.result ≠ .cancelled) (hc : f.isCancelled side = false)
    (hn : ∀ i, st ≠ .cancelCall i side) : (st.move f).isCancelled side = false := by
  by_cases hs : st.side? = some side
  · rw [← hc]
    cases st with
    | begin i other =>
      cases hs
      cases side <;> exact Call.isCancelled_begin _
    | send i other =>
      cases hs
      cases side <;> exact Call.isCancelled_send _ _
    | finish i reply =>
      cases hs
      cases reply <;> exact Call.isCancelled_finish _ _
    | cancelCall i other =>
      cases hs
      exact absurd rfl (hn i)
    | propagate i other =>
      rw [move, Fetch.propagate]
      split
      next h => exact absurd h hr
      next => rfl
    | _ => contradiction
  · rw [(alikeIn_move f hs).isCancelled, hc]

/-- The requests of one call of the fetch at a position, in the order they were sent. -/
def asked (s : Session) (i : Nat) (side : Side) : List Request :=
  (s.requests.filter fun p => p.1 = i && p.2.side = side).map Prod.snd

variable {s : Session} {i : Nat}

/-- A step adds to the requests of a call what it sends for that call. -/
theorem asked_step (s : Session) (st : Step) (i : Nat) (side : Side) :
    (s.step st).asked i side = s.asked i side ++
      if st.position? = some i then
        (s.fetches[i]?).elim [] fun f => (st.sends? f).toList.filter fun r => r.side = side
      else [] := by
  rw [asked, requests_step, List.filter_append, List.map_append, ← asked]
  congr 1
  cases hs : s.sent? st with
  | none =>
    split
    next hi =>
      cases hf : s.fetches[i]? with
      | none => rfl
      | some f =>
        have hnone : st.sends? f = none := by
          rwa [sent?_eq hf hi, Option.map_eq_none_iff] at hs
        rw [Option.elim_some, hnone]
        rfl
    next => rfl
  | some p =>
    obtain ⟨j, r⟩ := p
    obtain ⟨other, f, rfl, hf, hr⟩ := sent?_eq_some_iff.mp hs
    by_cases hj : j = i
    · subst hj
      by_cases hside : r.side = side <;> simp [Step.position?, Step.sends?, hf, hr, hside]
    · simp [Step.position?, hj]

/-- The calls of every fetch have sent what they stand for, and nothing else was sent. -/
def Balanced (s : Session) : Prop :=
  ∀ i side, s.asked i side = (s.fetches[i]?).elim [] fun f => f.asked side

/-- A step keeps the account of what was sent. -/
theorem Balanced.step (h : s.Balanced) (st : Step) : (s.step st).Balanced := by
  intro i side
  rw [asked_step, h i side]
  cases hf : s.fetches[i]? with
  | some f =>
    rw [getElem?_step hf]
    split
    · exact (st.asked_move f side).symm
    · exact List.append_nil _
  | none =>
    cases hg : (s.step st).fetches[i]? with
    | none => split <;> rfl
    | some g =>
      obtain ⟨name, key, rfl⟩ := getElem?_step_of_none hf hg
      split <;> cases side <;> rfl

/-- In every run, the requests of a call are told by where it stands. -/
theorem asked_of_steps {sink : LogSink} {row : List Step}
    (hf : ((fresh sink).steps row).fetches[i]? = some f) (side : Side) :
    ((fresh sink).steps row).asked i side = f.asked side := by
  have hbalanced : ((fresh sink).steps row).Balanced :=
    steps_induction (Q := Balanced) (fun _ st _ h => h.step st) fun _ _ => rfl
  rw [hbalanced i side, hf]
  rfl

/-- A fetch keeps what it was asked for through every row of steps. -/
theorem same_steps (hf : s.fetches[i]? = some f) (row : List Step) :
    ∃ g, (s.steps row).fetches[i]? = some g ∧ g.name = f.name ∧ g.key = f.key :=
  kept_by_steps (P := fun g => g.name = f.name ∧ g.key = f.key)
    (fun g st _ _ hg => ⟨(st.keeps_move g).name.trans hg.1, (st.movedBy g).key.trans hg.2⟩) hf
    ⟨rfl, rfl⟩

/-- A call that the executor does not cancel in a row of steps is cancelled with the result of
its fetch only. -/
theorem isCancelled_steps (hf : s.fetches[i]? = some f) (hc : f.isCancelled side = false)
    {row : List Step} (hn : .cancelCall i side ∉ row) :
    ∃ g, (s.steps row).fetches[i]? = some g ∧
      (g.result = .cancelled ∨ g.isCancelled side = false) := by
  refine kept_by_steps (P := fun g => g.result = .cancelled ∨ g.isCancelled side = false) ?_ hf
    (.inr hc)
  intro g st hst hi hg
  by_cases hr : g.result = .cancelled
  · refine .inl (((st.keeps_move g).result ?_).trans hr)
    rw [hr]
    rfl
  · refine .inr (Step.isCancelled_move hr (hg.resolve_left hr) ?_)
    rintro j rfl
    cases hi
    exact hn hst

end Session

/-- A request for the certificate of a key: it names the cluster of an instance and carries a
block that is read as that key. -/
def Request.Certifies (name : InstanceName) (k : RsaKey) (r : Request) : Prop :=
  ∃ block, r = .certificate name.clusterName block certificateSeconds true ∧
    KeyBlock.read block = .ok k

/-- The certificate request of a fetch is one for its key, or cannot be built for want of a
key. -/
theorem certificateRequest_cases (name : InstanceName) (key : ClientKey) :
    (∃ k r, key = .ok k ∧ r.Certifies name k ∧
      (certificateRequest name key).toOption.toList = [r]) ∨
    ∃ fault, key = .error fault ∧ (certificateRequest name key).toOption.toList = [] := by
  cases key with
  | ok k => exact .inl ⟨k, _, rfl, ⟨KeyBlock.write k, rfl, KeyBlock.read_write k⟩, rfl⟩
  | error fault => exact .inr ⟨fault, rfl, rfl⟩

/-- What a fetch that is not refused asks for in every run, whatever was asked for before it,
whatever becomes of other fetches and whatever the log calls meet. It asks for the metadata of its
own instance at most once, and at most once for a certificate, with the name of the cluster and a
block that is read as the public half of its own key. By the time its result is settled and unless
that was cancelled, a call that the executor did not cancel has been made exactly once, whatever the
other call ended with; only a certificate request that cannot be built for want of a key is left
out. -/
theorem requests_laws {sink : LogSink} {row : List Session.Step} {name : InstanceName}
    (hopen : ((Session.fresh sink).steps row).refusal? name = none) (key : ClientKey)
    (later : List Session.Step) :
    ∀ i s, i = ((Session.fresh sink).steps row).fetches.length →
      s = (Session.fresh sink).steps (row ++ .fetch name key :: later) →
      ∃ f, s.fetches[i]? = some f ∧
        (s.asked i .metadata = [] ∨ s.asked i .metadata = [.metadata name.text]) ∧
        (s.asked i .certificate = [] ∨
          ∃ k r, key = .ok k ∧ r.Certifies name k ∧ s.asked i .certificate = [r]) ∧
        (f.result.isDone = true → f.result ≠ .cancelled →
          (.cancelCall i .metadata ∉ later → s.asked i .metadata = [.metadata name.text]) ∧
          (.cancelCall i .certificate ∉ later →
            (∃ k r, key = .ok k ∧ r.Certifies name k ∧ s.asked i .certificate = [r]) ∨
              ∃ fault, key = .error fault ∧ s.asked i .certificate = [])) := by
  rintro i s rfl rfl
  have hfresh := Session.getElem?_step_fetch hopen key
  have hrun : (Session.fresh sink).steps (row ++ .fetch name key :: later) =
      (((Session.fresh sink).steps row).step (.fetch name key)).steps later :=
    Session.steps_append _ _ _
  obtain ⟨f, hf, hname, hkey⟩ := Session.same_steps hfresh later
  rw [← hrun] at hf
  have hmetadata : (f.request .metadata).toOption.toList = [.metadata name.text] := by
    rw [← show f.name = name from hname]
    rfl
  have hcertificate : f.request .certificate = certificateRequest name key := by
    rw [Fetch.request, hname, hkey]
    rfl
  have hcases := certificateRequest_cases name key
  refine ⟨f, hf, ?_, ?_, ?_⟩
  · rw [Session.asked_of_steps hf, ← hmetadata]
    exact f.asked_cases .metadata
  · rw [Session.asked_of_steps hf]
    rcases f.asked_cases .certificate with hnone | hasked
    · exact .inl hnone
    · rw [hcertificate] at hasked
      rcases hcases with ⟨k, r, hk, hr, hlist⟩ | ⟨_, _, hlist⟩
      · exact .inr ⟨k, r, hk, hr, hasked.trans hlist⟩
      · exact .inl (hasked.trans hlist)
  · intro hdone hresult
    have hd : f.result.isDelivered = true := by
      by_contra hopen
      rw [FetchResult.eq_pending (Bool.eq_false_iff.mpr hopen) hresult] at hdone
      contradiction
    have hboth : ∀ side, .cancelCall ((Session.fresh sink).steps row).fetches.length side ∉ later →
        f.asked side = (f.request side).toOption.toList := by
      intro side hexecutor
      have hc : (Fetch.fresh name key ((Session.fresh sink).steps row).sink).isCancelled side =
          false := by
        cases side <;> rfl
      obtain ⟨g, hg, hgc⟩ := Session.isCancelled_steps hfresh hc hexecutor
      rw [← hrun, hf, Option.some.injEq] at hg
      subst hg
      exact (Session.coherent_of_steps hf).asked_of_delivered hd (hgc.resolve_left hresult)
    rw [Session.asked_of_steps hf, Session.asked_of_steps hf]
    refine ⟨fun hexecutor => (hboth .metadata hexecutor).trans hmetadata, fun hexecutor => ?_⟩
    have hasked := hboth .certificate hexecutor
    rw [hcertificate] at hasked
    rcases hcases with ⟨k, r, hk, hr, hlist⟩ | ⟨fault, hk, hlist⟩
    · exact .inl ⟨k, r, hk, hr, hasked.trans hlist⟩
    · exact .inr ⟨fault, hk, hasked.trans hlist⟩

/-- The metadata call of a third fetch fails before its certificate call is taken up. -/
def deniedFirst : List Session.Step :=
  [.begin 2 .metadata, .send 2 .metadata,
    .finish 2 (.metadata (.error (.remote true (some .notFound) "gone"))), .notify 2 .metadata,
    .begin 2 .certificate, .send 2 .certificate,
    .finish 2 (.certificate (.ok sampleCertificates)), .notify 2 .certificate, .settle 2]

/-- Behind two other fetches, a fetch whose metadata call failed first has still asked for a
certificate of its key once; one whose key is locked has not. -/
theorem requests_laws_deniedFirst :
    (∃ s,
      s = (Session.fresh .silent).steps
        (mingledRow ++ .fetch sampleName sampleKey :: deniedFirst) ∧
      s.asked 2 .metadata = [.metadata "projects/p/locations/l/clusters/c/instances/i"] ∧
      ∃ k r, sampleKey = .ok k ∧ r.Certifies sampleName k ∧ s.asked 2 .certificate = [r]) ∧
    ∃ s, s = (Session.fresh .silent).steps (mingledRow ++
        .fetch sampleName (.error (.rule "locked")) :: deniedFirst) ∧
      s.asked 2 .metadata = [.metadata "projects/p/locations/l/clusters/c/instances/i"] ∧
      s.asked 2 .certificate = [] := by
  have hopen : ((Session.fresh .silent).steps mingledRow).refusal? sampleName = none := rfl
  have hlength : 2 = ((Session.fresh .silent).steps mingledRow).fetches.length := rfl
  constructor
  · have hf : ((Session.fresh .silent).steps (mingledRow ++
        .fetch sampleName sampleKey :: deniedFirst)).fetches[2]? = some _ := rfl
    obtain ⟨f, hf', _, _, hsettled⟩ :=
      requests_laws hopen sampleKey deniedFirst 2 _ hlength rfl
    cases hf.symm.trans hf'
    obtain ⟨hmetadata, hcertificate⟩ := hsettled rfl nofun
    refine ⟨_, rfl, hmetadata (by simp [deniedFirst]), ?_⟩
    exact (hcertificate (by simp [deniedFirst])).resolve_right (by rintro ⟨fault, hk, _⟩; cases hk)
  · have hf : ((Session.fresh .silent).steps (mingledRow ++
        .fetch sampleName (.error (.rule "locked")) :: deniedFirst)).fetches[2]? = some _ := rfl
    obtain ⟨f, hf', _, _, hsettled⟩ :=
      requests_laws hopen (.error (.rule "locked")) deniedFirst 2 _ hlength rfl
    cases hf.symm.trans hf'
    obtain ⟨hmetadata, hcertificate⟩ := hsettled rfl nofun
    refine ⟨_, rfl, hmetadata (by simp [deniedFirst]), ?_⟩
    rcases hcertificate (by simp [deniedFirst]) with ⟨k, r, hk, _⟩ | ⟨fault, _, hnone⟩
    · cases hk
    · exact hnone

end InstanceLink
