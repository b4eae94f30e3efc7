import InstanceLink.Fetch.Retry
import InstanceLink.Proofs.Fetch.Delivery
import InstanceLink.Proofs.Fetch.Serving

/-!
# Retrying a fetch

Retrying stops at the first attempt that does not fail for a while only, or at the last one
that its rule allows, and gives what that attempt gave. On an executor that finishes every
call at once, an attempt meets the next reply of each call and nothing that an earlier one
met.
-/

namespace InstanceLink

/-- Whether waiting ended with a transient failure. -/
def Waited.IsTransient (w : Waited) : Prop :=
  ∃ error, w = some (.error (.connector error)) ∧ error.isTransient = true

/-- An outcome calls for another attempt exactly when it is a transient failure. -/
theorem RetryRule.retries_iff {outcome : Except Fault ConnectionInfo} :
    retries outcome = true ↔ Waited.IsTransient (some outcome) := by
  unfold retries Waited.IsTransient
  split
  next error => simp
  next hne =>
    refine iff_of_false nofun ?_
    rintro ⟨error, he, _⟩
    exact hne error (Option.some.inj he)

namespace Fetcher

section Attempts

variable (name : InstanceName) (key : ClientKey) (timeout : Timeout)

/-- A fetcher after some attempts, one after the other. -/
def afterAttempts (x : Fetcher) : Nat → Fetcher
  | 0 => x
  | n + 1 => ((x.afterAttempts n).fetchAndWait name key timeout).1

/-- What an attempt gives, counted from zero. -/
def attempt (x : Fetcher) (n : Nat) : Waited :=
  ((x.afterAttempts name key timeout n).fetchAndWait name key timeout).2

/-- Some attempts after a first one are attempts of the fetcher that this one left. -/
theorem afterAttempts_succ_eq (x : Fetcher) (n : Nat) :
    x.afterAttempts name key timeout (n + 1) =
      (x.fetchAndWait name key timeout).1.afterAttempts name key timeout n := by
  induction n with
  | zero => rfl
  | succ n ih => rw [afterAttempts, ih, afterAttempts]

/-- An attempt after a first one is an attempt of the fetcher that this one left. -/
theorem attempt_succ_eq (x : Fetcher) (n : Nat) :
    x.attempt name key timeout (n + 1) =
      (x.fetchAndWait name key timeout).1.attempt name key timeout n := by
  rw [attempt, afterAttempts_succ_eq, attempt]

variable {name key timeout}

/-- After a transient failure that is not the last allowed, retrying pauses and goes on. -/
theorem retryFrom_succ_of_transient {rule : RetryRule} {fuel number : Nat} {x : Fetcher}
    (ht : (x.attempt name key timeout 0).IsTransient) (hl : rule.isLast number = false) :
    retryFrom rule name key timeout (fuel + 1) number x =
      { retryFrom rule name key timeout fuel (number + 1) (x.fetchAndWait name key timeout).1 with
        pauses := rule.pause number ::
          (retryFrom rule name key timeout fuel (number + 1)
            (x.fetchAndWait name key timeout).1).pauses } := by
  obtain ⟨error, hw, hk⟩ := ht
  have hretries : RetryRule.retries (α := ConnectionInfo) (.error (.connector error)) = true :=
    RetryRule.retries_iff.mpr ⟨error, rfl, hk⟩
  change (x.fetchAndWait name key timeout).2 = _ at hw
  rw [retryFrom]
  simp only [hw, hretries, hl, Bool.not_false, Bool.and_self, if_true]

/-- After any other outcome, and after the last attempt allowed, retrying ends. -/
theorem retryFrom_succ_of_not {rule : RetryRule} {fuel number : Nat} {x : Fetcher}
    (h : ¬((x.attempt name key timeout 0).IsTransient ∧ rule.isLast number = false)) :
    retryFrom rule name key timeout (fuel + 1) number x =
      ⟨(x.fetchAndWait name key timeout).1, [], (x.fetchAndWait name key timeout).2⟩ := by
  rw [attempt, afterAttempts] at h
  cases hw : (x.fetchAndWait name key timeout).2 with
  | none =>
    rw [retryFrom]
    simp only [hw]
  | some outcome =>
    have hends : ¬(RetryRule.retries outcome && !rule.isLast number) = true := by
      rw [Bool.and_eq_true, Bool.not_eq_true', RetryRule.retries_iff, ← hw]
      exact h
    rw [retryFrom]
    simp only [hw, if_neg hends]

variable (name key timeout)

/-- What retrying does under any rule: some attempts one after the other, each but the last
a transient failure after which the rule allows another, with the pauses of the rule
between them. It gives what the last attempt gave. -/
theorem retryFrom_eq (rule : RetryRule) (fuel number : Nat) (x : Fetcher) :
    ∃ n ≤ fuel, retryFrom rule name key timeout fuel number x =
        ⟨x.afterAttempts name key timeout (n + 1),
          (List.range n).map fun j => rule.pause (number + j), x.attempt name key timeout n⟩ ∧
      (∀ j < n, (x.attempt name key timeout j).IsTransient ∧
        rule.isLast (number + j) = false) ∧
      (n = fuel ∨ ¬(x.attempt name key timeout n).IsTransient ∨
        rule.isLast (number + n) = true) := by
  induction fuel generalizing number x with
  | zero => exact ⟨0, Nat.le_refl 0, rfl, nofun, .inl rfl⟩
  | succ fuel ih =>
    by_cases hagain : (x.attempt name key timeout 0).IsTransient ∧ rule.isLast number = false
    · obtain ⟨n, hn, hrest, hbefore, hend⟩ := ih (number + 1) (x.fetchAndWait name key timeout).1
      simp only [← attempt_succ_eq, ← afterAttempts_succ_eq, Nat.add_right_comm number 1]
        at hrest hbefore hend
      refine ⟨n + 1, Nat.succ_le_succ hn, ?_, ?_, ?_⟩
      · rw [retryFrom_succ_of_transient hagain.1 hagain.2, hrest, List.range_succ_eq_map,
          List.map_cons, List.map_map]
        rfl
      · rintro (_ | j) hj
        · exact hagain
        · exact hbefore j (Nat.lt_of_succ_lt_succ hj)
      · exact hend.imp_left (congrArg Nat.succ)
    · refine ⟨0, Nat.zero_le _, retryFrom_succ_of_not hagain, nofun, .inr ?_⟩
      by_cases ht : (x.attempt name key timeout 0).IsTransient
      · exact .inr (Bool.not_eq_false _ ▸ fun hl => hagain ⟨ht, hl⟩)
      · exact .inl ht

end Attempts

end Fetcher

/-- The replies that the two calls are still to meet, each counted from its next one on. -/
structure Script where
  metadata : Nat → Except Fault MetadataResponse
  certificate : Nat → Except Fault CertificateResponse

namespace Script

/-- Every fault in a script can be reported. -/
structure IsReportable (s : Script) : Prop where
  metadata : ∀ n fault, s.metadata n = .error fault → fault.isReportable = true
  certificate : ∀ n fault, s.certificate n = .error fault → fault.isReportable = true

/-- What an attempt of a number is joined to: what the replies of that number give, or the
fault of the key. -/
def attempt (s : Script) (key : ClientKey) (n : Nat) : Joined :=
  combine (Call.answered (s.metadata n)) (certificateEnd key (s.certificate n))

variable {s : Script} {key : ClientKey}

/-- The certificate call of an attempt ends with what can be reported. -/
theorem IsReportable.certificateEnd (hs : s.IsReportable) (hkey : key.IsReportable) (n : Nat) :
    (certificateEnd key (s.certificate n)).isReportable = true := by
  cases key with
  | ok key => exact Outcome.isReportable_answered (hs.certificate n)
  | error fault => exact hkey fault rfl

end Script

namespace Fetcher

/-- The client of a fetcher replies by a script from here on. -/
structure Follows (x : Fetcher) (s : Script) : Prop where
  metadata : ∀ n, AdminClient.turn x.client.metadata (x.session.sentCount .metadata + n) =
    .reply (s.metadata n)
  certificate : ∀ n, AdminClient.turn x.client.certificate
    (x.session.sentCount .certificate + n) = .reply (s.certificate n)

/-- How many of the requests of a served fetch are those of a call. -/
def servedCount (name : InstanceName) (key : ClientKey) (side : Side) : Nat :=
  ((servedRequests name key).filter fun r => r.side = side).length

/-- A fetcher after some attempts: each has added one fetch and its requests. -/
structure Attempted (x y : Fetcher) (name : InstanceName) (key : ClientKey) (n : Nat) : Prop where
  client : y.client = x.client
  sink : y.session.sink = x.session.sink
  accepts : y.session.refusal? name = none
  finishes : y.FinishesAtOnce
  length : y.session.fetches.length = x.session.fetches.length + n
  sentCount : ∀ side, y.session.sentCount side =
    x.session.sentCount side + n * servedCount name key side
  requests : y.session.requests = x.session.requests ++ (List.range n).flatMap fun j =>
    (servedRequests name key).map fun r => (x.session.fetches.length + j, r)

variable {x y z : Fetcher} {name : InstanceName} {key : ClientKey} {n : Nat} {s : Script}

/-- An executor that finishes at once does so again after a fetch was served. -/
theorem FinishesAtOnce.adds (h : x.FinishesAtOnce) {m : Outcome MetadataResponse}
    {c : Outcome CertificateResponse} {result : FetchResult} {sent : List Request}
    (hadds : x.Adds y (Fetch.noted name key x.session.sink m c result) sent) :
    y.FinishesAtOnce := by
  unfold FinishesAtOnce at h ⊢
  rw [hadds.executor]
  cases he : x.executor with
  | manual =>
    rw [he] at h
    exact h
  | inline => trivial
  | pool workers =>
    rw [he] at h
    refine ⟨h.1, fun f hf side => ?_⟩
    rw [hadds.fetches] at hf
    rcases List.mem_append.mp hf with hf | hf
    · exact h.2 f hf side
    · rw [List.mem_singleton.mp hf]
      cases side <;> rfl

/-- One more attempt adds one more fetch and its requests. -/
theorem Attempted.succ (h : x.Attempted y name key n) {m : Outcome MetadataResponse}
    {c : Outcome CertificateResponse} {result : FetchResult}
    (hadds : y.Adds z (Fetch.noted name key y.session.sink m c result)
      (servedRequests name key)) : x.Attempted z name key (n + 1) := by
  refine ⟨hadds.client.trans h.client, hadds.sink.trans h.sink,
    (hadds.refusal?_eq name).trans h.accepts, h.finishes.adds hadds, ?_, ?_, ?_⟩
  · rw [hadds.fetches, List.length_append, h.length, List.length_singleton, Nat.add_assoc]
  · intro side
    rw [hadds.sentCount, h.sentCount, Nat.succ_mul, Nat.add_assoc]
    rfl
  · rw [hadds.requests, h.requests, h.length, List.range_succ, List.flatMap_append,
      List.append_assoc, List.flatMap_singleton]

/-- After some attempts, the next one meets the replies of its number. The number of the
certificate reply does not matter where no request for one can be built. -/
theorem Attempted.meets (h : x.Attempted y name key n) (hfollows : x.Follows s) :
    ∃ b, y.Meets (s.metadata n) b ∧
      certificateEnd key b = certificateEnd key (s.certificate n) := by
  have hmetadata : y.session.sentCount .metadata = x.session.sentCount .metadata + n := by
    rw [h.sentCount]
    cases key <;> exact congrArg _ (Nat.mul_one n)
  cases key with
  | ok key =>
    have hcertificate : y.session.sentCount .certificate =
        x.session.sentCount .certificate + n := by
      rw [h.sentCount]
      exact congrArg _ (Nat.mul_one n)
    refine ⟨s.certificate n, ⟨?_, ?_⟩, rfl⟩
    · rw [h.client, hmetadata, hfollows.metadata]
    · rw [h.client, hcertificate, hfollows.certificate]
  | error fault =>
    -- No certificate request is ever sent: the call would still meet the very first reply.
    refine ⟨s.certificate 0, ⟨?_, ?_⟩, rfl⟩
    · rw [h.client, hmetadata, hfollows.metadata]
    · rw [h.client, h.sentCount]
      exact hfollows.certificate 0

/-- After some attempts, the next one gives what the replies of its number are joined to. -/
theorem Attempted.next (h : x.Attempted y name key n) (hfollows : x.Follows s)
    (hs : s.IsReportable) (hkey : key.IsReportable) (timeout : Timeout) :
    ∃ z waited, y.fetchAndWait name key timeout = (z, waited) ∧
      Gives x.session.sink name (s.attempt key n) timeout waited ∧
      x.Attempted z name key (n + 1) := by
  obtain ⟨b, hmeets, hb⟩ := h.meets hfollows
  have hm := Outcome.isReportable_answered (hs.metadata n)
  have hc : (certificateEnd key b).isReportable = true := hb ▸ hs.certificateEnd hkey n
  obtain ⟨z, waited, result, hz, hgives, hadds⟩ :=
    fetchAndWait_served hmeets hm hc h.accepts h.finishes timeout
  rw [h.sink, hb] at hgives
  exact ⟨z, waited, hz, hgives, h.succ hadds⟩

end Fetcher

/-- Under the standard rule, retrying makes one to three attempts and pauses four seconds
between them. -/
theorem Fetcher.fetchWithRetry_eq (x : Fetcher) (name : InstanceName) (key : ClientKey)
    (timeout : Timeout) :
    ∃ n ≤ 2, x.fetchWithRetry name key timeout =
        ⟨x.afterAttempts name key timeout (n + 1), List.replicate n 4,
          x.attempt name key timeout n⟩ ∧
      (∀ j < n, (x.attempt name key timeout j).IsTransient) ∧
      (n < 2 → ¬(x.attempt name key timeout n).IsTransient) := by
  obtain ⟨n, hn, heq, hbefore, hend⟩ := retryFrom_eq name key timeout .standard 3 1 x
  have hlast : ∀ j, RetryRule.standard.isLast (1 + j) = decide (2 ≤ j) := by
    intro j
    refine decide_eq_decide.mpr ?_
    change 3 ≤ 1 + j ↔ 2 ≤ j
    omega
  -- The third attempt is the last one allowed, so none of those before it is.
  have hle : n ≤ 2 := by
    by_contra hgt
    have h2 := (hbefore 2 (by omega)).2
    rw [hlast] at h2
    contradiction
  refine ⟨n, hle, ?_, fun j hj => (hbefore j hj).1, ?_⟩
  · rw [fetchWithRetry]
    refine heq.trans ?_
    have hpauses : (List.range n).map (fun j => RetryRule.standard.pause (1 + j)) =
        List.replicate n 4 := by
      match n, hle with
      | 0, _ => rfl
      | 1, _ => rfl
      | 2, _ => rfl
    rw [hpauses]
  · intro hlt
    rcases hend with rfl | hend | hend
    · omega
    · exact hend
    · rw [hlast, decide_eq_true_iff] at hend
      omega

end InstanceLink
