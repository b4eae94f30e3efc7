import InstanceLink.Proofs.Fetch.Origin

/-!
# The verdict of a fetch

A result is delivered only after both calls are over, is final once it is settled, and
fails as terminal or transient unless the outside raised something else. A failure is logged as a
warning by the notification that works it out, and settled by it unless announcing it raises a
fault; a fetch logs nothing else, so a bundle comes without any warning and a failure with exactly
one.
-/

namespace InstanceLink

namespace Fetch

variable {i : Nat} {f g : Fetch} {events : List FetchEvent} {error : ConnectorError}

/-- A notification logs a failure that it works out and that can be written. -/
theorem reported?_eq_some_iff :
    f.reported? = some error ↔ f.worked? = some (.failed error) ∧ error.textFault? = none := by
  unfold reported?
  split
  next worked hw =>
    rw [hw]
    cases ht : worked.textFault? with
    | none =>
      simp only [Option.isNone_none, if_true, Option.some.injEq, Joined.failed.injEq]
      exact ⟨fun h => ⟨h, h ▸ ht⟩, And.left⟩
    | some fault =>
      simp only [Option.isNone_some, Bool.false_eq_true, if_false, Option.some.injEq,
        Joined.failed.injEq]
      refine iff_of_false nofun ?_
      rintro ⟨rfl, hnone⟩
      rw [ht] at hnone
      contradiction
  next hne => exact iff_of_false nofun fun h => hne error h.1

/-- While the result is open, a notification works out what both ends combine to. -/
theorem worked?_of_pending (hp : f.result = .pending) : f.worked? = f.combined? := by
  rw [worked?, hp]

/-- Once the result is settled, a notification works out nothing. -/
theorem worked?_eq_none (hn : f.result ≠ .pending) : f.worked? = none := by
  unfold worked?
  split
  next hp => exact absurd hp hn
  next => rfl

/-- A failure that is announced without a fault can be written. -/
theorem textFault?_of_announced (h : f.announceFault? error = none) : error.textFault? = none :=
  (Option.or_eq_none_iff.mp h).1

/-- The failure that was logged for an uncancelled fetch: the one its join holds, or the
one its result was set to. -/
def announced? (f : Fetch) : Option ConnectorError :=
  match f.deciding, f.result with
  | some (.failed error), _ => some error
  | none, .failed error => some error
  | _, _ => none

/-- Nothing was announced for a fetch whose calls are not both over. -/
theorem Coherent.announced?_eq_none (h : f.Coherent) (hopen : f.combined? = none) :
    f.announced? = none := by
  have hj : f.joined? = none := by rw [joined?, hopen, Option.map_none]
  have hd : f.deciding = none := by
    cases hd : f.deciding with
    | none => rfl
    | some joined =>
      rw [(h.held joined hd).1] at hj
      contradiction
  unfold announced?
  rw [hd]
  cases hr : f.result with
  | failed error =>
    obtain ⟨joined, he, _⟩ := h.delivered (by rw [hr]; rfl)
    rw [he] at hj
    contradiction
  | _ => rfl

/-- What was logged for a fetch: only the failure that both its ends combine to, and that at most
once if announcing it raises no fault; until a cancellation it is what the fetch has announced. -/
structure Announces (i : Nat) (f : Fetch) (events : List FetchEvent) : Prop where
  told : ∀ event ∈ events, ∃ error, f.combined? = some (.failed error) ∧
    event = .failing i f.name error
  once : ∀ error, f.combined? = some (.failed error) → f.announceFault? error = none →
    events.length ≤ 1
  same : ∀ error, f.combined? = some (.failed error) → f.announceFault? error = none →
    f.result ≠ .cancelled → events = (f.announced?.map (.failing i f.name)).toList

/-- Unless both ends combine to a failure, nothing is logged. -/
theorem Announces.eq_nil (h : f.Announces i events)
    (hne : ∀ error, f.combined? ≠ some (.failed error)) : events = [] :=
  List.eq_nil_iff_forall_not_mem.mpr fun event he => by
    obtain ⟨error, hc, _⟩ := h.told event he
    exact hne error hc

/-- What is logged alike and announced alike, over the same ends, stays so. -/
theorem Announces.of_eq (h : f.Announces i events) (hname : g.name = f.name)
    (hsink : g.sink = f.sink) (hends : g.combined? = f.combined?)
    (hr : g.result = .cancelled ∨ f.result ≠ .cancelled ∧ g.announced? = f.announced?) :
    g.Announces i events := by
  have hfault := announceFault?_congr hname hsink
  refine ⟨?_, ?_, ?_⟩
  · rw [hends, hname]
    exact h.told
  · rw [hends, hfault]
    exact h.once
  · rw [hends, hfault]
    intro error hc ha hn
    obtain ⟨hf, he⟩ := hr.resolve_left hn
    rw [hname, he]
    exact h.same error hc ha hf

/-- Work announces nothing. -/
theorem Announces.works (h : f.Announces i events) (hf : f.Coherent) (hw : f.Works g) :
    g.Announces i events := by
  have hsame : g.announced? = f.announced? := by
    rw [announced?, hw.deciding, hw.result]
    rfl
  cases hends : f.combined? with
  | some joined =>
    refine h.of_eq hw.name hw.sink ((hw.combined? hends).trans hends.symm) ?_
    by_cases hn : f.result = .cancelled
    · exact .inl (hw.result.trans hn)
    · exact .inr ⟨hn, hsame⟩
  | none =>
    -- Nothing was logged while a call was not over, and nothing is held or set either.
    have hnil : events = [] := h.eq_nil fun error hc => by
      rw [hends] at hc
      contradiction
    subst hnil
    refine ⟨fun _ he => absurd he List.not_mem_nil, fun _ _ _ => Nat.zero_le 1,
      fun _ _ _ _ => ?_⟩
    rw [hsame, hf.announced?_eq_none hends]
    rfl

/-- While the result is open and nobody holds the join, nothing was announced. -/
theorem announced?_of_pending (hp : f.result = .pending) (hd : f.deciding = none) :
    f.announced? = none := by
  rw [announced?, hp, hd]

/-- A notification announces the failure it logs, unless that raises a fault, and nothing was
announced before. -/
theorem Announces.notify (h : f.Announces i events) (j : Nat) (side : Side) :
    (f.notify side).Announces i
      (events ++ (((Session.Step.notify j side).report? f).map (.failing i f.name)).toList) := by
  by_cases hc : f.canNotify side = true
  · have hd := (canNotify_iff.mp hc).2
    have hkeeps := f.keeps_notify side
    have hresult := f.result_notify side
    have hends := f.combined?_notify side
    have hfault := announceFault?_congr hkeeps.name hkeeps.sink
    have hdeciding := deciding_notify hc
    rw [Session.Step.report?, if_pos hc]
    by_cases hp : f.result = .pending
    · have hworked := worked?_of_pending hp
      have hnil : ∀ error, f.combined? = some (.failed error) →
          f.announceFault? error = none → events = [] := by
        intro error hcombined ha
        rw [h.same error hcombined ha (by simp [hp]), announced?_of_pending hp hd]
        rfl
      refine ⟨?_, ?_, ?_⟩
      · intro event he
        rw [hends, hkeeps.name]
        rcases List.mem_append.mp he with he | he
        · exact h.told event he
        · obtain ⟨error, hr, rfl⟩ := Option.map_eq_some_iff.mp (Option.mem_toList.mp he)
          exact ⟨error, hworked ▸ (reported?_eq_some_iff.mp hr).1, rfl⟩
      · intro error hcombined ha
        rw [hends] at hcombined
        rw [hfault] at ha
        rw [hnil error hcombined ha, List.nil_append]
        exact Option.length_toList_le
      · intro error hcombined ha _
        rw [hends] at hcombined
        rw [hfault] at ha
        have hreported : f.reported? = some error :=
          reported?_eq_some_iff.mpr ⟨hworked.trans hcombined, textFault?_of_announced ha⟩
        have hentered : f.entered = some (.failed error) := by
          refine entered_eq_some_iff.mpr ⟨hp, ?_, by simp⟩
          rw [joined?_of_combined? hcombined, announce_failed ha]
        have hannounced : (f.notify side).announced? = some error := by
          rw [announced?, hdeciding, hentered]
        rw [hnil error hcombined ha, List.nil_append, hreported, hannounced, hkeeps.name]
    · have he := entry_eq_none hp
      have hentered : f.entered = none := by rw [entered, he]
      have hreported : f.reported? = none := by rw [reported?, worked?_eq_none hp]
      rw [hreported, Option.map_none, Option.toList_none, List.append_nil]
      refine h.of_eq hkeeps.name hkeeps.sink hends ?_
      by_cases hn : f.result = .cancelled
      · exact .inl (hresult.trans hn)
      · refine .inr ⟨hn, ?_⟩
        rw [announced?, announced?, hdeciding, hresult, hentered, hd]
  · rw [Fetch.notify, if_neg hc, Session.Step.report?, if_neg hc]
    simpa using h

/-- Setting what the join holds announces nothing further. -/
theorem Announces.settle (h : f.Announces i events)
    (hheld : ∀ joined, f.deciding = some joined → f.result.isDelivered = false) :
    f.settle.Announces i events := by
  unfold Fetch.settle
  split
  next info hd hp => exact h.of_eq rfl rfl rfl (.inr ⟨by simp [hp], by simp [announced?, hd]⟩)
  next error hd hp => exact h.of_eq rfl rfl rfl (.inr ⟨by simp [hp], by simp [announced?, hd]⟩)
  next hbundle hfailed =>
    by_cases hn : f.result = .cancelled
    · exact h.of_eq rfl rfl rfl (.inl hn)
    refine h.of_eq rfl rfl rfl (.inr ⟨hn, ?_⟩)
    cases hd : f.deciding with
    | none => rw [announced?, announced?, hd]
    | some joined =>
      have hp := FetchResult.eq_pending (hheld joined hd) hn
      cases joined with
      | bundle info => exact absurd hp (hbundle info hd)
      | failed error => exact absurd hp (hfailed error hd)
      | escaped fault => rw [announced?, announced?, hd, hp]

/-- A cancellation announces nothing further. -/
theorem Announces.cancel (h : f.Announces i events) : f.cancel.Announces i events := by
  unfold Fetch.cancel
  split
  · exact h.of_eq rfl rfl rfl (.inl rfl)
  · exact h

/-- Every move logs what it comes to announce. -/
theorem Announces.move (h : f.Announces i events) (hf : f.Coherent) (st : Session.Step) :
    (st.move f).Announces i
      (events ++ ((st.report? f).map (.failing i f.name)).toList) := by
  rcases st.move_cases f with ⟨hw, hr⟩ | ⟨j, side, rfl⟩ | ⟨j, rfl⟩ | ⟨j, rfl⟩
  · rw [hr, Option.map_none, Option.toList_none, List.append_nil]
    exact h.works hf hw
  · exact h.notify j side
  · have hsettled := h.settle fun joined hd => (hf.held joined hd).2
    simpa [Session.Step.report?, Session.Step.move] using hsettled
  · simpa [Session.Step.report?, Session.Step.move] using h.cancel

end Fetch

namespace Session

variable {sink : LogSink} {row : List Step} {i : Nat} {f : Fetch}

end Session

end InstanceLink
