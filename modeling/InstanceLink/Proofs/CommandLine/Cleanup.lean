import InstanceLink.Proofs.CommandLine.Planning
import InstanceLink.Proofs.Fetch.Closing

/-!
# What a run leaves behind

A planned run that gets an admin client closes its transport once, however the fetch ends. The
executor is stopped, its queue cancelled and the registry cleared only behind that: a fault of
closing, and a client that cannot be built, leave all three undone.
-/

namespace InstanceLink.CommandLine

/-- The fetch of a run, with or without retries, is use of the fetcher. -/
theorem used_fetchOnce (s : Settings) (x : Fetcher) (name : InstanceName) (key : ClientKey) :
    x.AdvancesBy Session.Step.IsUse (fetchOnce s x name key).fetcher := by
  unfold fetchOnce
  split
  · exact x.used_fetchWithRetry name key (.decimal s.timeout)
  · exact x.used_fetchAndWait name key (.decimal s.timeout)

/-- One queued call is cancelled. -/
def cancelOne (x : Fetcher) (call : Nat × Side) : Fetcher := (x.cancelCall call.1 call.2).1

/-- Cancelling a queued call is a step of stopping and its notification. -/
theorem cancelOne_eq (x : Fetcher) (call : Nat × Side) :
    cancelOne x call = (x.take [.cancelCall call.1 call.2]).take
      [.notify call.1 call.2, .settle call.1] := rfl

/-- Cancelling queued calls is stopping. -/
theorem advancesBy_cancelOne (x : Fetcher) (call : Nat × Side) :
    x.AdvancesBy Session.Step.IsStop (cancelOne x call) := by
  rw [cancelOne_eq]
  exact (Fetcher.advancesBy_take (List.forall_mem_singleton.mpr trivial)).trans
    (Fetcher.advancesBy_take
      (List.forall_mem_cons.mpr ⟨trivial, List.forall_mem_singleton.mpr trivial⟩))

/-- Cancelling queued calls one after the other is stopping. -/
theorem advancesBy_cancelAll (calls : List (Nat × Side)) (x : Fetcher) :
    x.AdvancesBy Session.Step.IsStop (calls.foldl cancelOne x) := by
  induction calls generalizing x with
  | nil => exact .refl x
  | cons call rest ih => exact (advancesBy_cancelOne x call).trans (ih _)

/-- Of the calls that are cancelled none waits afterwards. -/
theorem noneWaits_cancelAll {calls : List (Nat × Side)} {call : Nat × Side} (h : call ∈ calls)
    (x : Fetcher) : (calls.foldl cancelOne x).session.NoneWaits call.1 call.2 := by
  induction calls generalizing x with
  | nil => contradiction
  | cons first rest ih =>
    rcases List.mem_cons.mp h with rfl | hrest
    · -- What follows the cancellation, its notification and all others, makes no call wait.
      have hlater : (x.take [.cancelCall call.1 call.2]).AdvancesBy Session.Step.IsStop
          (rest.foldl cancelOne (cancelOne x call)) := by
        rw [cancelOne_eq]
        exact (Fetcher.advancesBy_take
          (List.forall_mem_cons.mpr ⟨trivial, List.forall_mem_singleton.mpr trivial⟩)).trans
          (advancesBy_cancelAll rest _)
      exact hlater.preserves (Q := fun s => s.NoneWaits call.1 call.2)
        (fun _ _ hst hs => hs.step hst) (Session.noneWaits_cancelCall x.session call.1 call.2)
    · exact ih hrest _

/-- An executor is stopped by cancelling all calls behind its own stop. -/
theorem stopExecutor_eq (x : Fetcher) :
    stopExecutor x = x.callOrder.foldl cancelOne (x.take [.shutDown]) := rfl

/-- Stopping an executor is nothing but stopping. -/
theorem advancesBy_stopExecutor (x : Fetcher) :
    x.AdvancesBy Session.Step.IsStop (stopExecutor x) := by
  rw [stopExecutor_eq]
  exact (Fetcher.advancesBy_take (List.forall_mem_singleton.mpr trivial)).trans
    (advancesBy_cancelAll x.callOrder _)

/-- Stopping an executor closes nothing, sends nothing and takes up no fetch. -/
theorem stopExecutor_keeps (x : Fetcher) :
    (stopExecutor x).session.closings = x.session.closings ∧
      (stopExecutor x).session.requests = x.session.requests ∧
      (stopExecutor x).session.fetches.length = x.session.fetches.length := by
  have hkept := (advancesBy_stopExecutor x).keeps
    (fun s => (s.closings, s.requests, s.fetches.length)) fun s _ hst => hst.keeps s
  obtain ⟨hclosings, hothers⟩ := Prod.mk.inj hkept
  obtain ⟨hrequests, hlength⟩ := Prod.mk.inj hothers
  exact ⟨hclosings, hrequests, hlength⟩

/-- An executor that was stopped accepts nothing more. -/
theorem shutDown_stopExecutor (x : Fetcher) : (stopExecutor x).session.shutDown = true := by
  rw [stopExecutor_eq]
  exact (advancesBy_cancelAll x.callOrder (x.take [.shutDown])).preserves
    (Q := fun s => s.shutDown = true) (fun _ _ hst hs => hst.shutDown hs) rfl

/-- No call waits for an executor that was stopped. -/
theorem noneWaits_stopExecutor (x : Fetcher) (i : Nat) (side : Side) :
    (stopExecutor x).session.NoneWaits i side := by
  by_cases hlt : i < x.session.fetches.length
  · have hcall : (i, side) ∈ x.callOrder := by
      rw [Fetcher.callOrder, List.mem_flatMap]
      exact ⟨i, List.mem_range.mpr hlt, by cases side <;> simp⟩
    exact noneWaits_cancelAll hcall (x.take [.shutDown])
  · intro f hf
    have hlength := (stopExecutor_keeps x).2.2
    exact absurd (List.getElem?_eq_some_iff.mp hf).1 (by omega)

/-- A run lets its executor go: having asked for it, it stops it once, with what is queued
cancelled, and clears the registry; nothing is accepted and nothing waits afterwards. -/
structure Run.Releases (r : Run) (workers : Nat) : Prop where
  executor : r.executor = [.asked workers, .stopped false true, .registryCleared]
  shutDown : r.session.shutDown = true
  noneWaits : ∀ fetch side, r.session.NoneWaits fetch side

/-- A run that only asked for its executor did not let it go. -/
theorem Run.not_releases {r : Run} {workers : Nat} (h : r.executor = [.asked workers]) :
    ¬r.Releases workers := by
  intro hreleases
  have hthree := hreleases.executor
  rw [h] at hthree
  cases hthree

variable {p : Plan} {outside : Outside} {client : AdminClient}

/-- A planned run without an admin client raises what building it raised, and leaves the
executor as it is. -/
theorem run_of_admin_error {fault : Fault} (h : outside.admin = .error fault) :
    p.run outside = ⟨.raised fault, .nothing, .nothing, [], [.asked p.config.maxWorkers], 1,
      p.settings.level, .fresh p.sink⟩ := by
  simp only [Plan.run, h]

/-- The fetcher of a planned run, once its fetch has ended, and what came of it. -/
def Plan.fetchedBy (p : Plan) (client : AdminClient) (key : ClientKey) : Retried :=
  fetchOnce p.settings (p.fetcher client) p.config.instanceName key

/-- A planned run never waits without end: its fetch has a deadline. -/
theorem Plan.exists_waited_fetchedBy (p : Plan) (client : AdminClient) (key : ClientKey) :
    ∃ outcome, (p.fetchedBy client key).waited = some outcome := by
  have hdeadline : Timeout.decimal p.settings.timeout ≠ .unlimited := nofun
  unfold fetchedBy fetchOnce
  split
  · exact Fetcher.exists_waited_retryFrom hdeadline _ _ _ _ _ _
  · exact Fetcher.exists_waited_fetchAndWait hdeadline _ _ _

/-- A planned run with an admin client closes the transport once, whether closing raises or
not. -/
theorem Plan.close_fetchedBy (p : Plan) (client : AdminClient) (key : ClientKey) :
    (p.fetchedBy client key).fetcher.close.2 = client.closeFault ∧
      (p.fetchedBy client key).fetcher.close.1.session.closings = (true, 0, 1) := by
  obtain ⟨hfault, -, hclosings⟩ :=
    Fetcher.close_of_used (used_fetchOnce p.settings _ p.config.instanceName key)
  exact ⟨hfault, hclosings⟩

/-- A planned run whose transport closes shows what its fetch gave, and stops the executor. -/
theorem run_of_closed (h : outside.admin = .ok client) (hclose : client.closeFault = none)
    {fetched : Retried} (hfetched : p.fetchedBy client outside.key = fetched)
    {outcome : Except Fault ConnectionInfo} (hwaited : fetched.waited = some outcome)
    {shown : Shown} (hshown : p.showOutcome outcome = shown) :
    p.run outside = ⟨shown.1, shown.2.1, shown.2.2, fetched.pauses,
      [.asked p.config.maxWorkers, .stopped false true, .registryCleared], 1, p.settings.level,
      (stopExecutor fetched.fetcher.close.1).session⟩ := by
  subst hfetched hshown
  have hsplit : (p.fetchedBy client outside.key).fetcher.close =
      ((p.fetchedBy client outside.key).fetcher.close.1, none) :=
    Prod.ext rfl ((p.close_fetchedBy client outside.key).1.trans hclose)
  rw [Plan.fetchedBy] at hsplit hwaited
  simp only [Plan.run, h, Plan.fetchedBy, hwaited]
  rw [hsplit]

/-- A planned run whose transport closes lets its executor go. -/
theorem releases_run (h : outside.admin = .ok client) (hclose : client.closeFault = none) :
    (p.run outside).Releases p.config.maxWorkers ∧
      (p.run outside).session.closings = (true, 0, 1) := by
  obtain ⟨-, hclosings⟩ := p.close_fetchedBy client outside.key
  obtain ⟨outcome, hwaited⟩ := p.exists_waited_fetchedBy client outside.key
  rw [run_of_closed h hclose rfl hwaited rfl]
  exact ⟨⟨rfl, shutDown_stopExecutor _, noneWaits_stopExecutor _⟩,
    (stopExecutor_keeps _).1.trans hclosings⟩

/-- A planned run whose transport raises when it is closed raises that, and leaves the executor
as it is. -/
theorem run_of_closeFault {fault : Fault} (h : outside.admin = .ok client)
    (hclose : client.closeFault = some fault) :
    (p.run outside).ending = .raised fault ∧
      (p.run outside).executor = [.asked p.config.maxWorkers] ∧
      (p.run outside).session.closings = (true, 0, 1) := by
  obtain ⟨hfault, hclosings⟩ := p.close_fetchedBy client outside.key
  obtain ⟨outcome, hwaited⟩ := p.exists_waited_fetchedBy client outside.key
  have hsplit : (p.fetchedBy client outside.key).fetcher.close =
      ((p.fetchedBy client outside.key).fetcher.close.1, some fault) :=
    Prod.ext rfl (hfault.trans hclose)
  rw [Plan.fetchedBy] at hsplit hclosings hwaited
  simp only [Plan.run, h, hwaited]
  rw [hsplit]
  exact ⟨rfl, rfl, hclosings⟩

/-- A fault of showing is no waiting. -/
theorem ShowFault.ending_ne_waiting (fault : ShowFault) : fault.ending ≠ .waiting := by
  cases fault <;> exact nofun

/-- Nothing that is shown of an outcome is waiting. -/
theorem Plan.showOutcome_ne_waiting (p : Plan) (outcome : Except Fault ConnectionInfo) :
    (p.showOutcome outcome).1 ≠ .waiting := by
  cases outcome with
  | ok info =>
    rw [showOutcome, showBundle]
    split
    · exact nofun
    · exact ShowFault.ending_ne_waiting _
  | error fault =>
    rw [showOutcome]
    unfold showFailure
    split
    · split
      · exact nofun
      · split
        · exact nofun
        · exact ShowFault.ending_ne_waiting _
    · exact nofun

/-- No run waits without end, whatever it is asked for and whatever it meets. -/
theorem run_ending_ne_waiting (arguments : List String) (env : Environment) (outside : Outside)
    (around : Surroundings) : (run arguments env outside around).ending ≠ .waiting := by
  cases hplan : plan arguments env outside.version? around with
  | error early =>
    simp only [run, hplan]
    exact (of_plan_eq_error hplan).1
  | ok p =>
    rw [run_of_plan_eq_ok hplan]
    cases hadmin : outside.admin with
    | error fault =>
      simp [run_of_admin_error hadmin]
    | ok client =>
      cases hclose : client.closeFault with
      | some fault =>
        simp [(run_of_closeFault hadmin hclose).1]
      | none =>
        obtain ⟨outcome, hwaited⟩ := p.exists_waited_fetchedBy client outside.key
        rw [run_of_closed hadmin hclose rfl hwaited rfl]
        exact p.showOutcome_ne_waiting outcome

/-- What becomes of the executor and the transport of every run that asked for an executor. The
executor is let go exactly when the admin client could be built and its transport closes without
a fault, however the fetch ended. Without a client its fault is raised, nothing was opened, and
the executor stays. With a client the transport was closed exactly once; where that raised, its
fault is raised, and the executor stays. -/
theorem cleanup_laws {arguments : List String} {env : Environment} {outside : Outside}
    {around : Surroundings} {r : Run} (hrun : run arguments env outside around = r) {workers : Nat}
    (hasked : .asked workers ∈ r.executor) :
    (r.Releases workers ↔ ∃ client, outside.admin = .ok client ∧ client.closeFault = none) ∧
    (∀ fault, outside.admin = .error fault → r.ending = .raised fault ∧
      r.executor = [.asked workers] ∧ r.session.closings = (false, 0, 0)) ∧
    ∀ client, outside.admin = .ok client → r.session.closings = (true, 0, 1) ∧
      ∀ fault, client.closeFault = some fault → r.ending = .raised fault ∧
        r.executor = [.asked workers] := by
  cases hplan : plan arguments env outside.version? around with
  | error early =>
    simp only [run, hplan] at hrun
    subst hrun
    obtain ⟨-, -, hexecutor, -⟩ := of_plan_eq_error hplan
    rw [hexecutor] at hasked
    contradiction
  | ok p =>
    rw [run_of_plan_eq_ok hplan] at hrun
    obtain rfl : workers = p.config.maxWorkers := eq_of_asked_run (hrun ▸ hasked)
    cases hadmin : outside.admin with
    | error fault =>
      rw [run_of_admin_error hadmin] at hrun
      subst hrun
      refine ⟨iff_of_false (Run.not_releases rfl) ?_, ?_, ?_⟩
      · rintro ⟨client, hclient, -⟩
        cases hclient
      · rintro found ⟨⟩
        exact ⟨rfl, rfl, rfl⟩
      · rintro client ⟨⟩
    | ok client =>
      cases hclose : client.closeFault with
      | none =>
        obtain ⟨hreleases, hclosings⟩ :=
          @releases_run p outside client hadmin hclose
        rw [hrun] at hreleases hclosings
        refine ⟨iff_of_true hreleases ⟨client, rfl, hclose⟩, ?_, ?_⟩
        · rintro fault ⟨⟩
        · rintro found ⟨⟩
          refine ⟨hclosings, fun fault hfault => ?_⟩
          cases hclose.symm.trans hfault
      | some fault =>
        obtain ⟨hending, hexecutor, hclosings⟩ :=
          @run_of_closeFault p outside client fault hadmin hclose
        rw [hrun] at hending hexecutor hclosings
        refine ⟨iff_of_false (Run.not_releases hexecutor) ?_, ?_, ?_⟩
        · rintro ⟨found, ⟨⟩, hnone⟩
          cases hclose.symm.trans hnone
        · rintro fault ⟨⟩
        · rintro found ⟨⟩
          refine ⟨hclosings, fun other hother => ?_⟩
          cases hclose.symm.trans hother
          exact ⟨hending, hexecutor⟩

/-- The fault of a transport that breaks when it is closed. -/
def brokenTransport : Fault := .outside .plain "RuntimeError" [.text "transport"]

/-- An outside in which both calls of a fetch are answered and closing raises. -/
def breakingOutside : Outside :=
  ⟨.ok ⟨[.reply (.ok sampleMetadata)], [.reply (.ok sampleCertificates)], some brokenTransport⟩,
    sampleKey, none⟩

/-- A fetch that ends well leaves the executor running when closing raises: its transport was
closed once, and the executor was asked for and not stopped. -/
theorem cleanup_laws_brokenTransport :
    ∃ r, run sampleArguments [] breakingOutside = r ∧ r.session.closings = (true, 0, 1) ∧
      r.ending = .raised brokenTransport ∧ r.executor = [.asked 4] ∧ ¬r.Releases 4 := by
  obtain ⟨rest, hexecutor, -⟩ :=
    executor_run samplePlan breakingOutside
  have hasked : .asked 4 ∈ (run sampleArguments [] breakingOutside).executor := by
    rw [run_of_plan_eq_ok (plan_sample _), hexecutor]
    exact List.mem_cons_self
  obtain ⟨-, -, hclient⟩ := cleanup_laws rfl hasked
  obtain ⟨hclosings, hfault⟩ := hclient _ rfl
  obtain ⟨hending, hkept⟩ := hfault brokenTransport rfl
  exact ⟨_, rfl, hclosings, hending, hkept, Run.not_releases hkept⟩

end InstanceLink.CommandLine
