import InstanceLink.Proofs.Fetch.Accepting
import InstanceLink.Proofs.Fetch.Cancelling
import InstanceLink.Proofs.Fetch.Delivery
import InstanceLink.Proofs.Fetch.Settling

/-!
# Waiting up to a deadline

A caller that waits is given the result of its own fetch when that is there by the
deadline. Otherwise the fetch is cancelled and the deadline reported, and calls that still
waited for a worker never send a request. A timeout that a call met is a failure of unknown
status like any other, and never the deadline of the caller.
-/

namespace InstanceLink

/-- A fault tells of something that timed out, and of nothing else: it can be reported, and is
neither a classified failure nor a report of cancelled work, an error answer or a remote call that
gives a code. -/
structure Fault.IsTimeout (fault : Fault) : Prop where
  isDeadline : fault.isDeadline = true
  isConnector : fault.isConnector = false
  isCancelled : fault.isCancelled = false
  answer? : fault.answer? = none
  code? : fault.code? = none
  isReportable : fault.isReportable = true

/-- An operation of the system that timed out tells of nothing else. -/
theorem Fault.isTimeout_timedOut (arguments : List FieldValue) :
    (Fault.system .timedOut arguments).IsTimeout :=
  ⟨rfl, rfl, rfl, rfl, rfl, rfl⟩

variable {fault : Fault}

/-- A timeout is handled to a transient failure of unknown status that it caused. -/
theorem Fault.IsTimeout.handle_eq (h : fault.IsTimeout) :
    handle fault =
      ⟨.known .transient, failureMessage ("UNKNOWN: " ++ fault.text), .unknown, some fault, true⟩ := by
  have hstatus : statusOf fault = .unknown := by rw [statusOf, h.answer?, h.code?]
  rw [handle_of_not_connector h.isConnector, hstatus]
  rfl

/-- What a timeout is handled to is of a known class. -/
theorem Fault.IsTimeout.own?_handle (h : fault.IsTimeout) : (handle fault).own? = none := by
  rw [h.handle_eq]
  rfl

/-- A call that is answered a timeout counts as what that is handled to. -/
theorem Fault.IsTimeout.counted_raisedFor (h : fault.IsTimeout) :
    (Call.raisedFor fault).counted = handle fault := by
  have hcancelled : (Fault.connector (handle fault)).isCancelled = false := by
    simp only [Fault.isCancelled, Fault.own?, h.own?_handle, Option.any_none]
  simp only [Call.raisedFor_of_isReportable h.isReportable, Fault.counted, hcancelled,
    Bool.false_eq_true, if_false, handle_handle]

namespace Fetch

/-- A fault is what the calls of a fetch fail with: the metadata call was answered it and
the certificate call counts as no terminal failure, or the metadata call returned and the
certificate call was answered it or its key raised it. -/
def Surfaces (f : Fetch) (fault : Fault) : Prop :=
  (f.metadata.outcome? = some (Call.answered (.error fault)) ∧
    ∃ c, f.certificate.outcome? = some c ∧ c.isReportable = true ∧ c.isTerminal = false) ∨
  ((∃ a, f.metadata.outcome? = some (.returned a)) ∧
    (f.certificate.outcome? = some (Call.answered (.error fault)) ∨
      f.certificate.outcome? = some (.raised fault)))

variable {f : Fetch}

/-- A timeout that is surfaced is what the ends of its fetch combine to. -/
theorem Surfaces.combined? (h : f.Surfaces fault) (ht : fault.IsTimeout) :
    f.combined? = some (.failed (handle fault)) := by
  have hr := ht.isReportable
  have hanswered : ∀ {α : Type}, (Call.answered (α := α) (.error fault)).isReportable = true :=
    Outcome.isReportable_answered (by rintro _ ⟨⟩; exact hr)
  refine combined?_eq_some_iff.mpr ?_
  rcases h with ⟨hm, c, hc, hcr, hct⟩ | ⟨⟨a, hm⟩, hc | hc⟩
  · exact ⟨_, c, hm, hc,
      combine_of_metadata_failure hanswered hcr (congrArg some ht.counted_raisedFor) hct⟩
  · exact ⟨_, _, hm, hc,
      combine_of_certificate_failure hanswered (congrArg some ht.counted_raisedFor)⟩
  · refine ⟨_, _, hm, hc, combine_of_certificate_failure hr ?_⟩
    rw [Outcome.failure?, Fault.counted, ht.isCancelled]
    rfl

end Fetch

namespace Fetcher

variable {x : Fetcher} {i : Nat} {f : Fetch} {timeout : Timeout}

/-- A fetch that is asked for while work is accepted is there at its position, and nobody
has cancelled it before it is given back. -/
theorem exists_fetch_of_accepted {name : InstanceName}
    (hopen : x.session.refusal? name = none) (key : ClientKey) :
    ∃ f, (x.fetch name key).1.session.fetches[x.session.fetches.length]? = some f ∧
      f.result ≠ .cancelled := by
  obtain ⟨_, row, hrow, hy⟩ := x.worksOff_fetch name key
  rw [hy]
  exact Session.not_cancelled_steps (Session.getElem?_step_fetch hopen key) (by rintro ⟨⟩)
    fun hc => hrow _ hc

/-- Without a deadline, the wait for an open result has no end. -/
theorem wait_of_pending_unlimited (hf : x.session.fetches[i]? = some f)
    (hp : f.result = .pending) : x.wait i .unlimited = (x, none) := by
  have hr := (result_of_getElem? hf).trans hp
  simp only [wait, hr, FetchResult.answer?, Timeout.unrepresentable?, if_true]

/-- A result that is open at the deadline is cancelled, and the deadline is reported. -/
theorem wait_of_pending (hf : x.session.fetches[i]? = some f) (hp : f.result = .pending)
    (ht : timeout.unrepresentable? = none) (hlimited : timeout ≠ .unlimited) :
    x.wait i timeout =
      (x.cancel i, some (.error (.connector (deadlineFailure timeout .deadline)))) := by
  have hr := (result_of_getElem? hf).trans hp
  simp only [wait, hr, FetchResult.answer?, ht, if_neg hlimited]

/-- The result is cancelled, and the cancellation is passed on to both calls. -/
theorem cancel_eq_take (x : Fetcher) (i : Nat) :
    ∃ between, (∀ side, .propagate i side ∈ between) ∧
      x.cancel i = x.take (.cancel i :: between) := by
  refine ⟨_, ?_, rfl⟩
  rintro (_ | _) <;> simp

end Fetcher

/-- The laws of waiting for a fetch, for every timeout that can be represented and every
executor that does not refuse the fetch, whatever steps are taken before the deadline and whatever
the log calls meet, unless something asks the program to stop. A result that is there by then is
given as it is, but for a failure whose own class is that of a deadline too. Without a deadline,
the wait for an open result has no end; with one, the deadline is reported, the result is cancelled,
and once that was passed on to both calls a call that no worker took up before never sends a
request. A timeout that a call met, or that the key raised, and that tells of nothing else is a
failure of unknown status that it caused, and is given as that. -/
theorem wait_laws {x : Fetcher} (hx : x.Reachable) {name : InstanceName}
    (hopen : x.session.refusal? name = none) (hclient : x.client.NeverStops) {key : ClientKey}
    (hkey : key.NeverStops) {timeout : Timeout} (htimeout : timeout.unrepresentable? = none) :
    ∃ y i, x.fetch name key = (y, .ok i) ∧ x.fetchAndWait name key timeout = y.wait i timeout ∧
      ∀ meanwhile, .cancel i ∉ meanwhile → ∀ z, z = y.take meanwhile →
        ∃ f, z.session.fetches[i]? = some f ∧
          (∀ info, f.result = .bundle info → z.wait i timeout = (z, some (.ok info))) ∧
          (∀ error, f.result = .failed error → (Fault.connector error).isDeadline = false →
            z.wait i timeout = (z, some (.error (.connector error)))) ∧
          (f.result.isDelivered = false → timeout = .unlimited → z.wait i timeout = (z, none)) ∧
          (f.result.isDelivered = false → timeout ≠ .unlimited →
            (z.wait i timeout).2 = some (.error (.connector ⟨.known .transient,
              failureMessage ("timed out after " ++ timeout.text ++ " seconds"),
              .deadlineExceeded, some .deadline, true⟩)) ∧
            ∃ between, (∀ side, .propagate i side ∈ between) ∧
              (z.wait i timeout).1 = z.take (.cancel i :: between)) ∧
          (∀ before between, (∀ side, .propagate i side ∈ between) →
            ∃ g, (z.take (before ++ .cancel i :: between)).session.fetches[i]? = some g ∧
              ∀ side, g.isTaken side = false → ∀ later r,
                (i, r) ∈ (z.take (before ++ .cancel i :: between ++ later)).session.requests →
                r.side ≠ side) ∧
          ∀ error fault, f.result = .failed error → f.Surfaces fault → fault.IsTimeout →
            error = ⟨.known .transient, failureMessage ("UNKNOWN: " ++ fault.text), .unknown,
              some fault, true⟩ ∧
            z.wait i timeout = (z, some (.error (.connector error))) := by
  have hfetch := Fetcher.fetch_eq_ok hopen hclient hkey
  obtain ⟨sink, row, hrow⟩ := (Fetcher.Reachable.fetch name key hx).session_eq_steps
  obtain ⟨f₀, hf₀, hn₀⟩ := Fetcher.exists_fetch_of_accepted hopen key
  refine ⟨_, _, hfetch, by rw [Fetcher.fetchAndWait, hfetch], ?_⟩
  rintro meanwhile hmeanwhile z rfl
  -- Nobody else holds the result, so it is delivered or open when the deadline comes.
  obtain ⟨f, hf, hn⟩ := Session.not_cancelled_steps hf₀ hn₀ hmeanwhile
  have hrun : ((x.fetch name key).1.take meanwhile).session =
      (Session.fresh sink).steps (row ++ meanwhile) := by
    rw [Fetcher.take, hrow, Session.steps_append]
  change ((x.fetch name key).1.take meanwhile).session.fetches[_]? = _ at hf
  have hfailed : ∀ error, f.result = .failed error → (Fault.connector error).isDeadline = false →
      ((x.fetch name key).1.take meanwhile).wait x.session.fetches.length timeout =
        ((x.fetch name key).1.take meanwhile, some (.error (.connector error))) := by
    intro error hr hdeadline
    rw [Fetcher.wait_of_answer hf (by rw [hr]; rfl), Timeout.heeded_of_not_isDeadline hdeadline]
  refine ⟨f, hf, ?_, hfailed, ?_, ?_, ?_, ?_⟩
  · intro info hr
    exact Fetcher.wait_of_answer hf (by rw [hr]; rfl)
  · rintro hd rfl
    exact Fetcher.wait_of_pending_unlimited hf (FetchResult.eq_pending hd hn)
  · intro hd hlimited
    rw [Fetcher.wait_of_pending hf (FetchResult.eq_pending hd hn) htimeout hlimited]
    exact ⟨rfl, Fetcher.cancel_eq_take _ _⟩
  · intro before between hbetween
    rw [hrun] at hf
    obtain ⟨g, hg, _⟩ := Session.keeps_steps hf before
    rw [← Session.steps_append] at hg
    have hnever := Session.side_ne_of_cancel hg hbetween
    simp only [List.append_assoc, Session.steps_append _ row, ← hrow] at hnever
    simpa only [Fetcher.take, ← Session.steps_append, List.append_assoc] using hnever
  · intro error fault hr hs ht
    have hcoherent := Session.coherent_of_steps (hrun ▸ hf)
    have hresult := hcoherent.result_of_delivered (hs.combined? ht) (by rw [hr]; rfl)
    rw [hr, Joined.result, FetchResult.failed.injEq] at hresult
    subst hresult
    refine ⟨ht.handle_eq, hfailed _ hr ?_⟩
    simp only [Fault.isDeadline, Fault.own?, ht.own?_handle, Option.any_none]

/-- A client that leaves the metadata call without an answer. -/
def silentClient : AdminClient := ⟨[.silence], [.reply (.ok sampleCertificates)], none⟩

/-- A client whose metadata call times out by itself. -/
def timingOutClient : AdminClient :=
  ⟨[.reply (.error (.system .timedOut []))], [.reply (.ok sampleCertificates)], none⟩

/-- The one worker of a pool is kept by a silent call: the deadline is reported, and no
certificate request is ever sent. A call that times out by itself fails its fetch with
another status. -/
theorem wait_laws_silent :
    (∃ y z, (Fetcher.fresh (.pool 1) silentClient).fetch sampleName sampleKey = (y, .ok 0) ∧
      y.wait 0 (.whole 0) = (z, some (.error (.connector (deadlineFailure (.whole 0) .deadline)))) ∧
      ∀ later r, (0, r) ∈ (z.take later).session.requests → r.side ≠ .certificate) ∧
    ∃ y, (Fetcher.fresh .inline timingOutClient).fetchAndWait sampleName sampleKey
        (.whole (-1)) = (y, some (.error (.connector ⟨.known .transient,
          failureMessage ("UNKNOWN: " ++ Fault.text (.system .timedOut [])), .unknown,
          some (.system .timedOut []), true⟩))) := by
  have hsilent : silentClient.NeverStops :=
    AdminClient.neverStops_of_rows (by simp [silentClient]) (by simp [silentClient])
  have htiming : timingOutClient.NeverStops := by
    refine AdminClient.neverStops_of_rows ?_ (by simp [timingOutClient])
    intro fault hfault
    cases List.mem_singleton.mp hfault
    exact Fault.neverStops_of_known rfl rfl
  constructor
  · obtain ⟨y, i, hy, _, hlaws⟩ := @wait_laws (.fresh (.pool 1) silentClient) (.fresh _ _ _)
      sampleName rfl hsilent sampleKey nofun (.whole 0) rfl
    have hfetch : (Fetcher.fresh (.pool 1) silentClient).fetch sampleName sampleKey = (_, .ok 0) :=
      rfl
    obtain ⟨rfl, hi⟩ := Prod.mk.inj (hfetch.symm.trans hy)
    cases hi
    obtain ⟨f, hf, _, _, _, hdeadline, hnever, _⟩ := hlaws [] nofun _ rfl
    cases hf
    obtain ⟨g, hg, huntaken⟩ := hnever [] [.propagate 0 .metadata, .notify 0 .metadata, .settle 0,
      .propagate 0 .certificate, .notify 0 .certificate, .settle 0] (by rintro (_ | _) <;> simp)
    cases hg
    exact ⟨_, _, rfl, Prod.ext rfl (hdeadline rfl nofun).1, huntaken .certificate rfl⟩
  · obtain ⟨y, i, hy, hwait, hlaws⟩ := @wait_laws (.fresh .inline timingOutClient) (.fresh _ _ _)
      sampleName rfl htiming sampleKey nofun (.whole (-1)) rfl
    have hfetch : (Fetcher.fresh .inline timingOutClient).fetch sampleName sampleKey = (_, .ok 0) :=
      rfl
    obtain ⟨rfl, hi⟩ := Prod.mk.inj (hfetch.symm.trans hy)
    cases hi
    obtain ⟨f, hf, _, _, _, _, _, htimeout⟩ := hlaws [] nofun _ rfl
    cases hf
    obtain ⟨herror, hgiven⟩ := htimeout _ (.system .timedOut []) rfl (.inl ⟨rfl, _, rfl, rfl, rfl⟩)
      (Fault.isTimeout_timedOut [])
    exact ⟨_, herror ▸ hwait.trans hgiven⟩

/-- A transient failure whose class is that of a passed deadline too. -/
def lapsedError : ConnectorError :=
  ⟨.own ⟨.ok "no answer in time", false, true, true⟩ false true (.ok false), "no answer in time",
    .unavailable, none, false⟩

/-- A client whose metadata call raises that failure. -/
def lapsedClient : AdminClient :=
  ⟨[.reply (.error (.connector lapsedError))], [.reply (.ok sampleCertificates)], none⟩

/-- A failure of both classes passes as it is into the result, but the caller takes it for the
deadline, although it came without one. And a key that is interrupted interrupts a caller whose
executor does the work at once: that caller gets neither a result nor the deadline. -/
theorem lapsedError_heeded :
    (∃ y, (Fetcher.fresh .inline lapsedClient).fetch sampleName sampleKey = (y, .ok 0) ∧
      y.result 0 = .failed lapsedError ∧ lapsedError.status = .unavailable ∧
      (y.wait 0 .unlimited).2 = some (.error (.connector ⟨.known .transient,
        failureMessage "timed out after None seconds", .deadlineExceeded,
        some (.connector lapsedError), true⟩))) ∧
    ∃ y, (Fetcher.fresh .inline timingOutClient).fetchAndWait sampleName
        (.error (.outside .stop "KeyboardInterrupt" [])) (.whole 0) =
          (y, some (.error (.outside .stop "KeyboardInterrupt" []))) :=
  ⟨⟨_, rfl, rfl, rfl, rfl⟩, _, rfl⟩

end InstanceLink
