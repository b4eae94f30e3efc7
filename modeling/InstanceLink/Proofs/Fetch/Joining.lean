import InstanceLink.Proofs.Fetch.Combination
import InstanceLink.Proofs.Fetch.Progress

/-!
# Joining under every order of steps

What is held in the join, and what a result is set to, is always what the two ends of
the fetch itself combine to. When both notifications were given and nobody holds the
join, a result that is still open belongs to ends whose join a fault left, or to a failure
whose announcement one left.
-/

namespace InstanceLink

/-- Whether a result is a bundle or a failure. -/
def FetchResult.isDelivered : FetchResult → Bool
  | .bundle _ | .failed _ => true
  | .pending | .cancelled => false

/-- A result that is neither delivered nor cancelled is open. -/
theorem FetchResult.eq_pending {r : FetchResult} (hd : r.isDelivered = false)
    (hn : r ≠ .cancelled) : r = .pending := by
  cases r with
  | pending => rfl
  | cancelled => exact absurd rfl hn
  | bundle info => contradiction
  | failed error => contradiction

/-- The result that a join sets. A fault that leaves the join sets none. -/
def Joined.result : Joined → FetchResult
  | .bundle info => .bundle info
  | .failed error => .failed error
  | .escaped _ => .pending

/-- Only a join that gives a bundle sets one. -/
theorem Joined.result_eq_bundle_iff {joined : Joined} {info : ConnectionInfo} :
    joined.result = .bundle info ↔ joined = .bundle info := by
  cases joined <;> simp [result]

/-- Only a join that fails sets a failure. -/
theorem Joined.result_eq_failed_iff {joined : Joined} {error : ConnectorError} :
    joined.result = .failed error ↔ joined = .failed error := by
  cases joined <;> simp [result]

namespace Fetch

/-- What both ends come to, once both calls are over: what they combine to, announced. -/
def joined? (f : Fetch) : Option Joined := f.combined?.map f.announce

/-- Whether both notifications were given and nobody holds the join. -/
def isQuiet (f : Fetch) : Bool :=
  f.metadata.notified && f.certificate.notified && f.deciding.isNone

variable {f g : Fetch} {joined : Joined}

/-- The ends combine once both are there. -/
theorem combined?_eq_some_iff :
    f.combined? = some joined ↔
      ∃ m c, f.metadata.outcome? = some m ∧ f.certificate.outcome? = some c ∧
        combine m c = joined := by
  unfold combined?
  cases f.metadata.outcome? <;> cases f.certificate.outcome? <;> simp

/-- Two calls that are over combine to something. -/
theorem exists_combined? (hm : f.metadata.isOver = true) (hc : f.certificate.isOver = true) :
    ∃ joined, f.combined? = some joined := by
  obtain ⟨m, hm⟩ := Option.isSome_iff_exists.mp hm
  obtain ⟨c, hc⟩ := Option.isSome_iff_exists.mp hc
  exact ⟨combine m c, combined?_eq_some_iff.mpr ⟨m, c, hm, hc, rfl⟩⟩

/-- Announcing looks at the name of a fetch and at what its log calls meet. -/
theorem announceFault?_congr (hname : g.name = f.name) (hsink : g.sink = f.sink) :
    g.announceFault? = f.announceFault? := by
  funext error
  rw [announceFault?, announceFault?, hname, hsink]

/-- Fetches whose failures are announced alike announce every join alike. -/
theorem announce_congr (hname : g.name = f.name) (hsink : g.sink = f.sink) :
    g.announce = f.announce := by
  funext joined
  cases joined with
  | failed error => rw [announce, announce, announceFault?_congr hname hsink]
  | bundle info => rfl
  | escaped fault => rfl

/-- A join is announced as it is, or it is a failure that announcing does not bring about. -/
theorem announce_cases (f : Fetch) (joined : Joined) :
    f.announce joined = joined ∨ ∃ error fault, joined = .failed error ∧
      f.announceFault? error = some fault ∧ f.announce joined = .escaped fault := by
  cases joined with
  | bundle info => exact .inl rfl
  | escaped fault => exact .inl rfl
  | failed error =>
    cases ha : f.announceFault? error with
    | none => exact .inl (by simp only [announce, ha])
    | some fault => exact .inr ⟨error, fault, rfl, ha, by simp only [announce, ha]⟩

/-- A failure that is announced without a fault comes about. -/
theorem announce_failed {error : ConnectorError} (h : f.announceFault? error = none) :
    f.announce (.failed error) = .failed error := by
  simp only [announce, h]

/-- What announcing lets come about is what was announced. -/
theorem announce_eq_of_isDelivered (h : (f.announce joined).result.isDelivered = true) :
    f.announce joined = joined := by
  rcases f.announce_cases joined with he | ⟨_, fault, _, _, he⟩
  · exact he
  · rw [he] at h
    contradiction

/-- Announcing leaves the join by a fault exactly where one left it before, or where the failure
cannot be announced. -/
theorem announce_eq_escaped_iff {fault : Fault} :
    f.announce joined = .escaped fault ↔ joined = .escaped fault ∨
      ∃ error, joined = .failed error ∧ f.announceFault? error = some fault := by
  cases joined with
  | bundle info => simp [announce]
  | escaped raised => simp [announce]
  | failed error => cases ha : f.announceFault? error <;> simp [announce, ha]

/-- The ends come to what they combine to, announced. -/
theorem joined?_of_combined? (h : f.combined? = some joined) :
    f.joined? = some (f.announce joined) := by
  rw [joined?, h]
  rfl

/-- What ends come to is told by what they combine to. -/
theorem joined?_eq_some_iff :
    f.joined? = some joined ↔ ∃ worked, f.combined? = some worked ∧ f.announce worked = joined :=
  Option.map_eq_some_iff

/-- What ends combine to is never replaced by work. -/
theorem Works.combined? (h : f.Works g) (hj : f.combined? = some joined) :
    g.combined? = some joined := by
  obtain ⟨m, c, hm, hc, he⟩ := combined?_eq_some_iff.mp hj
  exact combined?_eq_some_iff.mpr ⟨m, c, h.metadata.outcome m hm, h.certificate.outcome c hc, he⟩

/-- What ends come to is never replaced by work. -/
theorem Works.joined? (h : f.Works g) (hj : f.joined? = some joined) :
    g.joined? = some joined := by
  obtain ⟨worked, hw, he⟩ := joined?_eq_some_iff.mp hj
  exact joined?_eq_some_iff.mpr ⟨worked, h.combined? hw, announce_congr h.name h.sink ▸ he⟩

/-- A notification enters an open result with what both ends come to. -/
theorem entry_eq_some_iff :
    f.entry = some joined ↔ f.result = .pending ∧ f.joined? = some joined := by
  unfold entry worked? joined?
  cases f.result <;> simp

/-- A notification finds nothing in the join once the result is settled. -/
theorem entry_eq_none (hn : f.result ≠ .pending) : f.entry = none := by
  cases he : f.entry with
  | none => rfl
  | some joined => exact absurd (entry_eq_some_iff.mp he).1 hn

/-- A notification can be given when it is owed and nobody holds the join. -/
theorem canNotify_iff {side : Side} :
    f.canNotify side = true ↔ f.owes side = true ∧ f.deciding = none := by
  rw [canNotify, Bool.and_eq_true, Option.isNone_iff_eq_none]

/-- All is said when both ends were notified and nobody holds the join. -/
theorem isQuiet_iff :
    f.isQuiet = true ↔
      f.metadata.notified = true ∧ f.certificate.notified = true ∧ f.deciding = none := by
  rw [isQuiet, Bool.and_eq_true, Bool.and_eq_true, Option.isNone_iff_eq_none, and_assoc]

/-- Work leaves all that was said as it is. -/
theorem Works.isQuiet (h : f.Works g) : g.isQuiet = f.isQuiet := by
  rw [Fetch.isQuiet, Fetch.isQuiet, h.metadata.notified, h.certificate.notified, h.deciding]

/-- What a notification that enters the join comes to hold. -/
def entered (f : Fetch) : Option Joined :=
  match f.entry with
  | some (.escaped _) => none
  | entry => entry

/-- The join is held with what both ends of an open result come to, unless a fault
leaves it. -/
theorem entered_eq_some_iff :
    f.entered = some joined ↔ f.result = .pending ∧ f.joined? = some joined ∧
      ∀ fault, joined ≠ .escaped fault := by
  rw [← and_assoc, ← entry_eq_some_iff]
  unfold entered
  cases f.entry with
  | none => simp
  | some entry =>
    cases entry with
    | bundle info => simp +contextual [eq_comm]
    | failed error => simp +contextual [eq_comm]
    | escaped fault => simp +contextual [eq_comm]

/-- A notification that can be given takes hold of the join. -/
theorem notify_eq {side : Side} (hc : f.canNotify side = true) :
    f.notify side = { f.markNotified side with deciding := f.entered } := by
  rw [notify, if_pos hc]
  rfl

/-- What a notification that can be given leaves in the join. -/
theorem deciding_notify {side : Side} (hc : f.canNotify side = true) :
    (f.notify side).deciding = f.entered := by
  rw [notify_eq hc]

/-- A notification of two ends, and the setting of what it holds, give the result what they
come to, unless it has been given that before. -/
theorem settle_notify {side : Side} (hc : f.canNotify side = true)
    (hj : f.joined? = some joined) (hr : f.result = .pending ∨ f.result = joined.result) :
    (f.notify side).settle =
      { f.markNotified side with result := joined.result, deciding := none } := by
  have hresult : (f.markNotified side).result = f.result := by cases side <;> rfl
  rw [notify_eq hc]
  by_cases hp : f.result = .pending
  · have he : f.entry = some joined := entry_eq_some_iff.mpr ⟨hp, hj⟩
    cases joined <;> simp [settle, entered, he, hresult, hp, Joined.result]
  · have he := entry_eq_none hp
    rw [settle, entered, he, ← hr.resolve_left hp, ← hresult]

/-- A notification leaves the ends alone. -/
theorem outcome?_notify (f : Fetch) (side : Side) :
    (f.notify side).metadata.outcome? = f.metadata.outcome? ∧
      (f.notify side).certificate.outcome? = f.certificate.outcome? := by
  unfold notify
  split
  · cases side <;> exact ⟨rfl, rfl⟩
  · exact ⟨rfl, rfl⟩

/-- A notification leaves alone what both ends combine to. -/
theorem combined?_notify (f : Fetch) (side : Side) :
    (f.notify side).combined? = f.combined? := by
  obtain ⟨hm, hc⟩ := f.outcome?_notify side
  rw [combined?, combined?, hm, hc]

/-- A notification leaves alone what both ends come to. -/
theorem joined?_notify (f : Fetch) (side : Side) : (f.notify side).joined? = f.joined? := by
  have hkeeps := f.keeps_notify side
  rw [joined?, joined?, combined?_notify, announce_congr hkeeps.name hkeeps.sink]

/-- A join that an open result does not enter is left by a fault. -/
theorem escaped_of_not_entered (hp : f.result = .pending)
    (hj : f.joined? = some joined) (hnone : f.entered = none) :
    ∃ fault, joined = .escaped fault := by
  cases joined with
  | escaped fault => exact ⟨fault, rfl⟩
  | bundle info =>
    rw [entered_eq_some_iff.mpr ⟨hp, hj, nofun⟩] at hnone
    contradiction
  | failed error =>
    rw [entered_eq_some_iff.mpr ⟨hp, hj, nofun⟩] at hnone
    contradiction

/-- What holds of a fetch at every moment of every run. -/
structure Coherent (f : Fetch) : Prop where
  /-- Only an end is notified. -/
  metadata : f.metadata.notified = true → f.metadata.isOver = true
  certificate : f.certificate.notified = true → f.certificate.isOver = true
  /-- The join holds what both ends come to, and nothing was set before. -/
  held : ∀ joined, f.deciding = some joined →
    f.joined? = some joined ∧ f.result.isDelivered = false
  /-- What was set is what both ends come to. -/
  delivered : f.result.isDelivered = true → ∃ joined, f.joined? = some joined ∧
    f.result = joined.result
  /-- Where all is said and the result is open, a fault has left the join. -/
  quiet : f.isQuiet = true → f.result = .pending → ∃ fault, f.joined? = some (.escaped fault)

/-- A fresh fetch is coherent: nothing has ended. -/
theorem coherent_fresh (name : InstanceName) (key : ClientKey) (sink : LogSink) :
    (fresh name key sink).Coherent := by
  refine ⟨?_, ?_, ?_, ?_, ?_⟩ <;> intros <;> contradiction

/-- Work keeps a fetch coherent. -/
theorem Coherent.works (h : f.Coherent) (hw : f.Works g) : g.Coherent := by
  refine ⟨?_, ?_, ?_, ?_, ?_⟩
  · intro hn
    rw [hw.metadata.notified] at hn
    exact hw.metadata.isOver (h.metadata hn)
  · intro hn
    rw [hw.certificate.notified] at hn
    exact hw.certificate.isOver (h.certificate hn)
  · intro joined hd
    rw [hw.deciding] at hd
    obtain ⟨hj, hr⟩ := h.held joined hd
    exact ⟨hw.joined? hj, by rw [hw.result, hr]⟩
  · intro hr
    rw [hw.result] at hr ⊢
    obtain ⟨joined, hj, he⟩ := h.delivered hr
    exact ⟨joined, hw.joined? hj, he⟩
  · intro hq hr
    rw [hw.isQuiet] at hq
    rw [hw.result] at hr
    obtain ⟨fault, hj⟩ := h.quiet hq hr
    exact ⟨fault, hw.joined? hj⟩

/-- A notification keeps to the ends: only a call that is over is notified. -/
theorem Coherent.isOver_of_notified (h : f.Coherent) (side : Side) :
    ((f.notify side).metadata.notified = true → f.metadata.isOver = true) ∧
      ((f.notify side).certificate.notified = true → f.certificate.isOver = true) := by
  by_cases hc : f.canNotify side = true
  · have howes := (canNotify_iff.mp hc).1
    rw [notify_eq hc]
    cases side with
    | metadata => exact ⟨fun _ => (Bool.and_eq_true_iff.mp howes).1, h.certificate⟩
    | certificate => exact ⟨h.metadata, fun _ => (Bool.and_eq_true_iff.mp howes).1⟩
  · rw [Fetch.notify, if_neg hc]
    exact ⟨h.metadata, h.certificate⟩

/-- A notification keeps a fetch coherent. -/
theorem Coherent.notify (h : f.Coherent) (side : Side) : (f.notify side).Coherent := by
  by_cases hc : f.canNotify side = true
  · obtain ⟨hm, hcert⟩ := h.isOver_of_notified side
    obtain ⟨hmends, hcends⟩ := f.outcome?_notify side
    have hjoined := f.joined?_notify side
    have hresult := f.result_notify side
    have hdeciding := deciding_notify hc
    refine ⟨?_, ?_, ?_, ?_, ?_⟩
    · intro hn
      rw [Call.isOver, hmends]
      exact hm hn
    · intro hn
      rw [Call.isOver, hcends]
      exact hcert hn
    · intro joined hd
      rw [hdeciding] at hd
      obtain ⟨hp, hj, _⟩ := entered_eq_some_iff.mp hd
      exact ⟨hjoined.trans hj, by rw [hresult, hp]; rfl⟩
    · intro hr
      rw [hresult] at hr ⊢
      rw [hjoined]
      exact h.delivered hr
    · intro hq hp
      rw [hresult] at hp
      obtain ⟨hmn, hcn, hnone⟩ := isQuiet_iff.mp hq
      rw [hdeciding] at hnone
      obtain ⟨joined, hj⟩ := exists_combined? (hm hmn) (hcert hcn)
      obtain ⟨fault, he⟩ := escaped_of_not_entered hp (joined?_of_combined? hj) hnone
      exact ⟨fault, by rw [hjoined, joined?_of_combined? hj, he]⟩
  · rw [Fetch.notify, if_neg hc]
    exact h

/-- Setting what the join holds keeps a fetch coherent. -/
theorem Coherent.settle (h : f.Coherent) : f.settle.Coherent := by
  unfold Fetch.settle
  split
  next info hd hp =>
    have hj := (h.held _ hd).1
    refine ⟨h.metadata, h.certificate, ?_, fun _ => ⟨_, hj, rfl⟩, ?_⟩
    · intro joined hn
      exact absurd hn.symm (Option.some_ne_none joined)
    · intro _ hr
      contradiction
  next error hd hp =>
    have hj := (h.held _ hd).1
    refine ⟨h.metadata, h.certificate, ?_, fun _ => ⟨_, hj, rfl⟩, ?_⟩
    · intro joined hn
      exact absurd hn.symm (Option.some_ne_none joined)
    · intro _ hr
      contradiction
  next hbundle hfailed =>
    refine ⟨h.metadata, h.certificate, ?_, h.delivered, ?_⟩
    · intro joined hn
      exact absurd hn.symm (Option.some_ne_none joined)
    intro hq hp
    cases hd : f.deciding with
    | none =>
      refine h.quiet ?_ hp
      rw [isQuiet, hd]
      exact hq
    | some joined =>
      cases joined with
      | bundle info => exact absurd hp (hbundle info hd)
      | failed error => exact absurd hp (hfailed error hd)
      | escaped fault => exact ⟨fault, (h.held _ hd).1⟩

/-- A cancellation keeps a fetch coherent. -/
theorem Coherent.cancel (h : f.Coherent) : f.cancel.Coherent := by
  unfold Fetch.cancel
  split
  next hp =>
    refine ⟨h.metadata, h.certificate, ?_, ?_, ?_⟩
    · intro joined hd
      exact ⟨(h.held joined hd).1, rfl⟩
    · intro hr
      contradiction
    · intro _ hr
      contradiction
  next => exact h

/-- Every move keeps a fetch coherent. -/
theorem Coherent.move (h : f.Coherent) (st : Session.Step) : (st.move f).Coherent := by
  rcases st.move_cases f with ⟨hw, _⟩ | ⟨i, side, rfl⟩ | ⟨i, rfl⟩ | ⟨i, rfl⟩
  · exact h.works hw
  · exact h.notify side
  · exact h.settle
  · exact h.cancel

/-- A delivered result was set from the join of both ends. -/
theorem Coherent.combine_of_delivered (h : f.Coherent) (hd : f.result.isDelivered = true) :
    ∃ m c, f.metadata.outcome? = some m ∧ f.certificate.outcome? = some c ∧
      f.result = (combine m c).result := by
  obtain ⟨joined, hj, hr⟩ := h.delivered hd
  obtain ⟨worked, hw, rfl⟩ := joined?_eq_some_iff.mp hj
  obtain ⟨m, c, hm, hc, rfl⟩ := combined?_eq_some_iff.mp hw
  rw [hr] at hd
  exact ⟨m, c, hm, hc, by rw [hr, announce_eq_of_isDelivered hd]⟩

/-- A delivered result is what both ends combine to. -/
theorem Coherent.result_of_delivered (h : f.Coherent) (hj : f.combined? = some joined)
    (hd : f.result.isDelivered = true) : f.result = joined.result := by
  obtain ⟨m, c, hm, hc, hr⟩ := h.combine_of_delivered hd
  have hj' : f.combined? = some (combine m c) := combined?_eq_some_iff.mpr ⟨m, c, hm, hc, rfl⟩
  rw [hj, Option.some.injEq] at hj'
  rw [hr, hj']

/-- Where all is said and nobody cancelled, the result is what both ends come to. -/
theorem Coherent.result_of_quiet (h : f.Coherent) (hj : f.combined? = some joined)
    (hq : f.isQuiet = true) (hn : f.result ≠ .cancelled) :
    f.result = (f.announce joined).result := by
  by_cases hd : f.result.isDelivered = true
  · obtain ⟨reached, hreached, hr⟩ := h.delivered hd
    rw [joined?_of_combined? hj, Option.some.injEq] at hreached
    rw [hr, hreached]
  · have hp := FetchResult.eq_pending (Bool.eq_false_iff.mpr hd) hn
    obtain ⟨fault, he⟩ := h.quiet hq hp
    rw [joined?_of_combined? hj, Option.some.injEq] at he
    rw [he, hp]
    rfl

/-- A failure that a delivered result holds was announced without a fault. -/
theorem Coherent.announceFault?_of_failed (h : f.Coherent) {error : ConnectorError}
    (hr : f.result = .failed error) : f.announceFault? error = none := by
  obtain ⟨joined, hj, he⟩ := h.delivered (by rw [hr]; rfl)
  obtain ⟨worked, _, rfl⟩ := joined?_eq_some_iff.mp hj
  have hfailed := Joined.result_eq_failed_iff.mp (he.symm.trans hr)
  rcases f.announce_cases worked with hsame | ⟨_, fault, _, _, hescaped⟩
  · rw [hsame] at hfailed
    subst hfailed
    by_contra hsome
    obtain ⟨fault, ha⟩ := Option.ne_none_iff_exists'.mp hsome
    simp only [announce, ha] at hsame
    contradiction
  · rw [hescaped] at hfailed
    contradiction

end Fetch

namespace Session

variable {sink : LogSink} {row : List Step} {i : Nat} {f : Fetch}

/-- Every fetch is coherent at every moment of every run. -/
theorem coherent_of_steps (hf : ((fresh sink).steps row).fetches[i]? = some f) : f.Coherent :=
  fetch_of_steps (P := fun f _ => f.Coherent)
    (fun name key => Fetch.coherent_fresh name key sink) (fun _ _ st _ _ h => h.move st) hf

end Session

/-- A delivered result is what the final ends of the fetch itself combine to. Two
fetches whose calls ended alike are given the same result, whatever the order of steps,
whatever their log calls meet and whatever became of other fetches, once it is delivered, or all is
said, nobody cancelled and announcing it raises no fault. -/
theorem delivered_result_eq_combine {sink : LogSink} {row : List Session.Step} {i : Nat}
    {f : Fetch} (hf : ((Session.fresh sink).steps row).fetches[i]? = some f)
    (hd : f.result.isDelivered = true) :
    (∃ m c, f.result = (combine m c).result ∧
      ∀ later, ∃ g, ((Session.fresh sink).steps (row ++ later)).fetches[i]? = some g ∧
        g.metadata.outcome? = some m ∧ g.certificate.outcome? = some c) ∧
    ∀ (other : LogSink) (order : List Session.Step) (j : Nat) (g : Fetch),
      ((Session.fresh other).steps order).fetches[j]? = some g →
      g.metadata.outcome? = f.metadata.outcome? → g.certificate.outcome? = f.certificate.outcome? →
      g.result.isDelivered = true ∨ (g.isQuiet = true ∧ g.result ≠ .cancelled ∧
        ∀ error, f.result = .failed error → g.announceFault? error = none) →
      g.result = f.result := by
  have hcoherent := Session.coherent_of_steps hf
  obtain ⟨m, c, hm, hc, hr⟩ := hcoherent.combine_of_delivered hd
  refine ⟨⟨m, c, hr, ?_⟩, ?_⟩
  · intro later
    obtain ⟨g, hg, hkeeps⟩ := Session.keeps_steps hf later
    rw [Session.steps_append]
    exact ⟨g, hg, hkeeps.metadata m hm, hkeeps.certificate c hc⟩
  · intro other order j g hg hgm hgc hend
    have hcoherent' := Session.coherent_of_steps hg
    have hj' : g.combined? = some (combine m c) :=
      Fetch.combined?_eq_some_iff.mpr ⟨m, c, hgm.trans hm, hgc.trans hc, rfl⟩
    rcases hend with hd' | ⟨hq, hn, ha⟩
    · rw [hr, hcoherent'.result_of_delivered hj' hd']
    · rw [hcoherent'.result_of_quiet hj' hq hn, hr]
      cases hcombine : combine m c with
      | failed error =>
        rw [Fetch.announce_failed (ha error (by rw [hr, hcombine]; rfl))]
      | bundle info => rfl
      | escaped fault => rfl

/-- An instance for runs written out in full. -/
def sampleName : InstanceName :=
  ⟨⟨"p", by decide⟩, ⟨"l", by decide⟩, ⟨"c", by decide⟩, ⟨"i", by decide⟩⟩

/-- A key for runs written out in full. -/
def sampleKey : ClientKey := .ok ⟨3233, 17, by decide, by decide, by decide, by decide⟩

/-- Two fetches share a session. The calls of the first fail in the order opposite to
the one they were begun in, their notifications come late, and the second fetch is
cancelled in between. -/
def mingledRow : List Session.Step :=
  [.fetch sampleName sampleKey, .fetch sampleName sampleKey, .begin 0 .metadata,
    .begin 0 .certificate, .send 0 .certificate, .send 0 .metadata,
    .finish 0 (.certificate (.error (.remote true (some .unavailable) "busy"))), .cancel 1,
    .propagate 1 .metadata, .notify 0 .certificate,
    .finish 0 (.metadata (.error (.remote true (some .notFound) "gone"))),
    .propagate 1 .certificate, .notify 1 .certificate, .notify 0 .metadata,
    .notify 1 .metadata, .settle 0]

/-- The calls of one fetch, one after the other, of which the first enters the join. -/
def orderlyRow : List Session.Step :=
  [.fetch sampleName sampleKey, .begin 0 .metadata, .send 0 .metadata,
    .finish 0 (.metadata (.error (.remote true (some .notFound) "gone"))),
    .begin 0 .certificate, .send 0 .certificate,
    .finish 0 (.certificate (.error (.remote true (some .unavailable) "busy"))),
    .notify 0 .metadata, .settle 0]

/-- The mingled and the orderly run give their first fetch the same failure. -/
theorem delivered_result_eq_combine_mingled :
    ∃ f g, ((Session.fresh .silent).steps mingledRow).fetches[0]? = some f ∧
      ((Session.fresh .silent).steps orderlyRow).fetches[0]? = some g ∧
      f.result.isDelivered = true ∧ g.result.isDelivered = true ∧ g.result = f.result := by
  have hf : ((Session.fresh .silent).steps mingledRow).fetches[0]? = some _ := rfl
  have hg : ((Session.fresh .silent).steps orderlyRow).fetches[0]? = some _ := rfl
  refine ⟨_, _, hf, hg, rfl, rfl, ?_⟩
  exact (delivered_result_eq_combine hf rfl).2 .silent orderlyRow 0 _ hg rfl rfl (.inl rfl)

end InstanceLink
