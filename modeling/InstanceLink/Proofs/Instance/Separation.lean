import InstanceLink.Proofs.Instance.Grammar

/-!
# What tells names apart

A segment holds no slash and every mark starts with one, so a segment ends where its mark
starts. A written name therefore determines its four parts and a cluster's name its three,
whatever else the parts hold: blanks, line breaks, or the words of the marks. Reading is not
used here, since it refuses some of these names.
-/

namespace InstanceLink

namespace Template

variable {segment other mark behind rest rest' : List Char}

/-- A segment in front of a mark ends where the mark starts. -/
theorem segment_inj (hmark : mark = '/' :: behind) (hsegment : '/' ∉ segment) (hother : '/' ∉ other)
    (h : segment ++ mark ++ rest = other ++ mark ++ rest') : segment = other ∧ rest = rest' := by
  subst hmark
  induction segment generalizing other with
  | nil =>
    cases other with
    | nil => exact ⟨rfl, List.append_cancel_left h⟩
    | cons d other =>
      have hd : '/' = d := (List.cons.inj h).1
      exact absurd (hd ▸ List.mem_cons_self) hother
  | cons c segment ih =>
    cases other with
    | nil =>
      have hc : c = '/' := (List.cons.inj h).1
      exact absurd (hc ▸ List.mem_cons_self) hsegment
    | cons d other =>
      obtain ⟨rfl, htail⟩ := List.cons.inj h
      obtain ⟨rfl, hrest⟩ := ih (fun hc => hsegment (List.mem_cons_of_mem c hc))
        (fun hc => hother (List.mem_cons_of_mem c hc)) htail
      exact ⟨rfl, hrest⟩

/-- The characters of a name up to its cluster. -/
def front (project location : List Char) : List Char :=
  InstanceName.projectMark.toList ++ (project ++ InstanceName.locationMark.toList ++
    (location ++ InstanceName.clusterMark.toList))

/-- What stands in front of a cluster is told from what follows. -/
theorem front_inj {project project' location location' : List Char} (hp : '/' ∉ project)
    (hp' : '/' ∉ project') (hl : '/' ∉ location) (hl' : '/' ∉ location')
    (h : front project location ++ rest = front project' location' ++ rest') :
    project = project' ∧ location = location' ∧ rest = rest' := by
  simp only [front, List.append_assoc] at h
  have hproject := List.append_cancel_left h
  rw [← List.append_assoc, ← List.append_assoc project'] at hproject
  obtain ⟨rfl, hbehind⟩ :=
    segment_inj (show InstanceName.locationMark.toList = '/' :: _ from rfl) hp hp' hproject
  rw [← List.append_assoc, ← List.append_assoc location'] at hbehind
  obtain ⟨rfl, hrest⟩ :=
    segment_inj (show InstanceName.clusterMark.toList = '/' :: _ from rfl) hl hl' hbehind
  exact ⟨rfl, rfl, hrest⟩

/-- A name determines its parts where these hold no slash. -/
theorem written_inj {p q : Parts} (hp : ∀ part ∈ p.texts, '/' ∉ part.toList)
    (hq : ∀ part ∈ q.texts, '/' ∉ part.toList) (h : written p = written q) : p = q := by
  obtain ⟨hpp, hpl, hpc, -⟩ := Parts.forall_mem_texts.mp hp
  obtain ⟨hqp, hql, hqc, -⟩ := Parts.forall_mem_texts.mp hq
  have hfront : ∀ r : Parts, (written r).toList = front r.project.toList r.location.toList ++
      (r.cluster.toList ++ InstanceName.leafMark.toList ++ r.leaf.toList) := by
    intro r
    simp only [toList_written, front, List.append_assoc]
  have hlist := congrArg String.toList h
  rw [hfront, hfront] at hlist
  obtain ⟨hproject, hlocation, hrest⟩ := front_inj hpp hqp hpl hql hlist
  obtain ⟨hcluster, hleaf⟩ :=
    segment_inj (show InstanceName.leafMark.toList = '/' :: _ from rfl) hpc hqc hrest
  obtain ⟨project, location, cluster, leaf⟩ := p
  obtain ⟨project', location', cluster', leaf'⟩ := q
  rw [Parts.mk.injEq]
  exact ⟨String.toList_inj.mp hproject, String.toList_inj.mp hlocation,
    String.toList_inj.mp hcluster, String.toList_inj.mp hleaf⟩

end Template

namespace InstanceName

variable {a b : InstanceName}

/-- Instances whose names have the same parts are the same. -/
theorem parts_inj (h : a.parts = b.parts) : a = b := by
  obtain ⟨project, location, cluster, leaf⟩ := a
  obtain ⟨project', location', cluster', leaf'⟩ := b
  simp only [parts, Template.Parts.mk.injEq] at h
  obtain ⟨hproject, hlocation, hcluster, hleaf⟩ := h
  rw [Segment.eq_of_text_eq hproject, Segment.eq_of_text_eq hlocation,
    Segment.eq_of_text_eq hcluster, Segment.eq_of_text_eq hleaf]

/-- Instances with the same written name are the same. -/
theorem text_inj (h : a.text = b.text) : a = b :=
  parts_inj (Template.written_inj slashless_of_mem_texts slashless_of_mem_texts h)

/-- Two instances belong to the same cluster. -/
structure SharesCluster (a b : InstanceName) : Prop where
  project_eq : a.project = b.project
  location_eq : a.location = b.location
  cluster_eq : a.cluster = b.cluster

/-- The characters of a cluster's name. -/
theorem toList_clusterName (n : InstanceName) :
    n.clusterName.toList =
      Template.front n.project.text.toList n.location.text.toList ++ n.cluster.text.toList := by
  simp only [clusterName, Template.front, String.toList_append, List.append_assoc]

/-- Clusters have the same name exactly when they are the same. -/
theorem clusterName_eq_iff : a.clusterName = b.clusterName ↔ a.SharesCluster b := by
  constructor
  · intro h
    obtain ⟨hap, hal, -, -⟩ :=
      Template.Parts.forall_mem_texts.mp (slashless_of_mem_texts (n := a))
    obtain ⟨hbp, hbl, -, -⟩ :=
      Template.Parts.forall_mem_texts.mp (slashless_of_mem_texts (n := b))
    have hlist := congrArg String.toList h
    rw [toList_clusterName, toList_clusterName] at hlist
    obtain ⟨hproject, hlocation, hcluster⟩ := Template.front_inj hap hbp hal hbl hlist
    exact ⟨Segment.eq_of_text_eq (String.toList_inj.mp hproject),
      Segment.eq_of_text_eq (String.toList_inj.mp hlocation),
      Segment.eq_of_text_eq (String.toList_inj.mp hcluster)⟩
  · rintro ⟨hproject, hlocation, hcluster⟩
    rw [clusterName, clusterName, hproject, hlocation, hcluster]

end InstanceName

end InstanceLink
