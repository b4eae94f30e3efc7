import InstanceLink.Proofs.Fetch.Requesting
import InstanceLink.Proofs.Instance.Separation

/-!
# What the requests of a fetch are about

The metadata request of a fetch names its instance and the certificate request the cluster above
it. Since names tell instances and clusters apart, no request of a fetch can be taken for one
about another instance, and both requests are about the same cluster.
-/

namespace InstanceLink

/-- The resource that a request is about. -/
def Request.parent : Request → String
  | .metadata parent => parent
  | .certificate parent _ _ _ => parent

/-- Every certificate request is about the cluster of its instance, whatever the key. -/
theorem parent_of_mem_certificateRequest {name : InstanceName} {key : ClientKey} {r : Request}
    (h : r ∈ (certificateRequest name key).toOption.toList) : r.parent = name.clusterName := by
  rcases certificateRequest_cases name key with
    ⟨k, request, -, ⟨block, rfl, -⟩, hlist⟩ | ⟨_, -, hlist⟩
  · rw [hlist, List.mem_singleton] at h
    rw [h, Request.parent]
  · rw [hlist] at h
    contradiction

/-- The resource that a call of a fetch is about. -/
def Fetch.resource (f : Fetch) : Side → String
  | .metadata => f.name.text
  | .certificate => f.name.clusterName

/-- What a call has sent is about its resource. -/
theorem Fetch.parent_of_mem_asked {f : Fetch} {side : Side} {r : Request}
    (h : r ∈ f.asked side) : r.parent = f.resource side := by
  have hrequest : r ∈ (f.request side).toOption.toList := by
    rcases f.asked_cases side with hnone | hasked
    · rw [hnone] at h
      contradiction
    · rwa [hasked] at h
  cases side with
  | metadata =>
    have hr : r = metadataRequest f.name := List.mem_singleton.mp hrequest
    rw [hr]
    rfl
  | certificate => exact parent_of_mem_certificateRequest hrequest

/-- In every run, what a fetch has asked is about the instance it was called for. -/
theorem parent_of_mem_asked {sink : LogSink} {row later : List Session.Step}
    {name : InstanceName} {key : ClientKey} {side : Side} {r : Request}
    (hopen : ((Session.fresh sink).steps row).refusal? name = none)
    (h : r ∈ ((Session.fresh sink).steps (row ++ .fetch name key :: later)).asked
      ((Session.fresh sink).steps row).fetches.length side) :
    r.parent = (Fetch.fresh name key sink).resource side := by
  have hrun : (Session.fresh sink).steps (row ++ .fetch name key :: later) =
      (((Session.fresh sink).steps row).step (.fetch name key)).steps later :=
    Session.steps_append _ _ _
  obtain ⟨f, hf, hname, -⟩ :=
    Session.same_steps (Session.getElem?_step_fetch hopen key) later
  rw [← hrun] at hf
  rw [Session.asked_of_steps hf] at h
  have hresource : f.resource side = (Fetch.fresh name key sink).resource side := by
    cases side <;> rw [Fetch.resource, Fetch.resource, hname] <;> rfl
  rw [Fetch.parent_of_mem_asked h, hresource]

/-- Names are unambiguous. Fields make an instance exactly when none is empty or holds a slash,
be they blank, broken into lines or words of the marks. Any two instances have different names,
two clusters have the same name exactly when they are the same, and an instance's name is that of
its cluster with the instance behind it. So in every run the metadata request of a fetch fits no
instance but the one it was called for, the certificate request fits exactly the instances of the
same cluster, and the two are about one cluster. -/
theorem naming_laws :
    (∀ p : Template.Parts, (∃ n, InstanceName.ofFields (InstanceName.partFields p) = .ok n ∧
        n.parts = p) ↔ ∀ part ∈ p.texts, part ≠ "" ∧ '/' ∉ part.toList) ∧
      (∀ a b : InstanceName, a.text = b.text ↔ a = b) ∧
      (∀ a b : InstanceName, a.clusterName = b.clusterName ↔
        a.project = b.project ∧ a.location = b.location ∧ a.cluster = b.cluster) ∧
      (∀ n : InstanceName, n.text = n.clusterName ++ "/instances/" ++ n.leaf.text) ∧
      ∀ sink row later name key, ((Session.fresh sink).steps row).refusal? name = none →
        ∀ i s, i = ((Session.fresh sink).steps row).fetches.length →
          s = (Session.fresh sink).steps (row ++ .fetch name key :: later) →
          (∀ r ∈ s.asked i .metadata, ∀ n : InstanceName, r.parent = n.text ↔ n = name) ∧
          (∀ r ∈ s.asked i .certificate, ∀ n : InstanceName,
            r.parent = n.clusterName ↔ n.SharesCluster name) ∧
          ∀ r ∈ s.asked i .metadata, ∀ c ∈ s.asked i .certificate,
            r.parent = c.parent ++ "/instances/" ++ name.leaf.text := by
  have hfields : ∀ p : Template.Parts,
      (∃ n, InstanceName.ofFields (InstanceName.partFields p) = .ok n ∧ n.parts = p) ↔
        ∀ part ∈ p.texts, part ≠ "" ∧ '/' ∉ part.toList := by
    intro p
    simp only [← isSegment_iff, ← InstanceName.exists_parts_eq_iff,
      InstanceName.ofFields_eq_ok_iff]
    exact exists_congr fun n => ⟨fun h => h.2, fun h => ⟨h.symm, h⟩⟩
  refine ⟨hfields, fun a b => ⟨InstanceName.text_inj, fun h => h ▸ rfl⟩, fun a b => ?_,
    InstanceName.text_eq, ?_⟩
  · rw [InstanceName.clusterName_eq_iff]
    exact ⟨fun h => ⟨h.project_eq, h.location_eq, h.cluster_eq⟩, fun h => ⟨h.1, h.2.1, h.2.2⟩⟩
  · rintro sink row later name key hopen i s rfl rfl
    refine ⟨fun r hr n => ?_, fun r hr n => ?_, fun r hr c hc => ?_⟩
    · rw [parent_of_mem_asked hopen hr]
      exact ⟨fun h => (InstanceName.text_inj h).symm, fun h => h ▸ rfl⟩
    · rw [parent_of_mem_asked hopen hr, eq_comm]
      exact InstanceName.clusterName_eq_iff
    · rw [parent_of_mem_asked hopen hr, parent_of_mem_asked hopen hc]
      exact name.text_eq

/-- An instance whose segments are words of the marks, a blank and a broken line. -/
def oddName : InstanceName :=
  ⟨⟨"locations", by decide⟩, ⟨" ", by decide⟩, ⟨"a\nb", by decide⟩, ⟨"instances\n", by decide⟩⟩

/-- Behind other fetches, the requests of a fetch for such an instance are about it alone, and not
about the one whose name lacks the line break at its end. -/
theorem naming_laws_oddName :
    ((Session.fresh .silent).steps mingledRow).refusal? oddName = none ∧
      ∃ s r c,
        s = (Session.fresh .silent).steps (mingledRow ++ .fetch oddName sampleKey :: deniedFirst) ∧
        r ∈ s.asked 2 .metadata ∧ c ∈ s.asked 2 .certificate ∧
        r.parent = c.parent ++ "/instances/" ++ "instances\n" ∧
        r.parent ≠ ({ oddName with leaf := ⟨"instances", by decide⟩ } : InstanceName).text := by
  have hopen : ((Session.fresh .silent).steps mingledRow).refusal? oddName = none := rfl
  obtain ⟨-, -, -, -, hrequests⟩ := naming_laws
  obtain ⟨hinstance, -, hsame⟩ :=
    hrequests .silent mingledRow deniedFirst oddName sampleKey hopen 2 _ rfl rfl
  have hr : metadataRequest oddName ∈ ((Session.fresh .silent).steps
      (mingledRow ++ .fetch oddName sampleKey :: deniedFirst)).asked 2 .metadata :=
    List.mem_singleton.mpr rfl
  obtain ⟨c, hc⟩ : ∃ c, c ∈ ((Session.fresh .silent).steps
      (mingledRow ++ .fetch oddName sampleKey :: deniedFirst)).asked 2 .certificate :=
    ⟨_, List.mem_singleton.mpr rfl⟩
  refine ⟨hopen, _, _, c, rfl, hr, hc, hsame _ hr c hc, fun h => ?_⟩
  have hleaf := congrArg (fun n : InstanceName => n.leaf.text) ((hinstance _ hr _).mp h)
  exact absurd hleaf (by decide)

end InstanceLink
