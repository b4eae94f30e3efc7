import InstanceLink.Instance.Template

/-!
# What the shape of a name matches

A match takes a text apart into its marks and the parts between them, and loses nothing; a
text that can be taken apart at all is matched. Parts are as short as the rest allows, so
where a text can be taken apart into parts without a slash, the match settles on them: no
mark can start before the end of such a part.
-/

namespace InstanceLink.Template

variable {α : Type} {mark taken part cs : List Char} {next : List Char → Option α} {found : α}

/-- A match up to a mark takes a part without a line break, the mark, and a rest that matches. -/
theorem eq_of_upTo (h : upTo mark next taken cs = some (part, found)) :
    ∃ segment rest, part = taken.reverse ++ segment ∧ segment ≠ [] ∧ '\n' ∉ segment ∧
      cs = segment ++ mark ++ rest ∧ next rest = some found := by
  induction cs generalizing taken with
  | nil => contradiction
  | cons c rest ih =>
    unfold upTo at h
    split at h
    next => contradiction
    next hc =>
      -- The part ends behind this character, or the match goes on with the rest.
      have hlater : upTo mark next (c :: taken) rest = some (part, found) →
          ∃ segment rest', part = taken.reverse ++ segment ∧ segment ≠ [] ∧ '\n' ∉ segment ∧
            c :: rest = segment ++ mark ++ rest' ∧ next rest' = some found := by
        intro hrest
        obtain ⟨segment, rest', hpart, _, hline, hsplit, hnext⟩ := ih hrest
        refine ⟨c :: segment, rest', ?_, List.cons_ne_nil _ _, ?_, ?_, hnext⟩
        · rw [hpart, List.reverse_cons, List.append_assoc, List.singleton_append]
        · simp only [List.mem_cons, not_or]
          exact ⟨fun heq => hc heq.symm, hline⟩
        · rw [hsplit, List.cons_append, List.cons_append]
      by_cases hmark : mark.isPrefixOf rest = true
      · obtain ⟨rest', hrest⟩ := List.isPrefixOf_iff_prefix.mp hmark
        cases hnext : next (rest.drop mark.length) with
        | none =>
          simp only [hmark, if_true, hnext, Option.map_none] at h
          exact hlater h
        | some value =>
          simp only [hmark, if_true, hnext, Option.map_some, Option.some.injEq,
            Prod.mk.injEq] at h
          obtain ⟨rfl, rfl⟩ := h
          refine ⟨[c], rest', by rw [List.reverse_cons], List.cons_ne_nil _ _, ?_, ?_, ?_⟩
          · rw [List.mem_singleton]
            exact fun heq => hc heq.symm
          · rw [← hrest, List.singleton_append, List.cons_append]
          · rwa [← hrest, List.drop_left] at hnext
      · simp only [hmark, Bool.false_eq_true, if_false] at h
        exact hlater h

/-- Where a part without slash and line break is followed by a mark that starts with a slash,
and the rest matches, the match takes exactly that part. -/
theorem upTo_segment {segment rest behind : List Char} (hnonempty : segment ≠ [])
    (hslash : '/' ∉ segment) (hline : '\n' ∉ segment) (hnext : next rest = some found)
    (hmark : mark = '/' :: behind) (taken : List Char) :
    upTo mark next taken (segment ++ mark ++ rest) = some (taken.reverse ++ segment, found) := by
  induction segment generalizing taken with
  | nil => contradiction
  | cons c segment ih =>
    simp only [List.mem_cons, not_or] at hslash hline
    have hc : ¬(c = '\n') := fun heq => hline.1 heq.symm
    rw [List.cons_append, List.cons_append, upTo, if_neg hc]
    cases segment with
    | nil =>
      have hstarts : mark.isPrefixOf (mark ++ rest) = true :=
        List.isPrefixOf_iff_prefix.mpr (List.prefix_append _ _)
      simp only [List.nil_append, hstarts, if_true, List.drop_left, hnext, Option.map_some,
        List.reverse_cons]
    | cons d segment =>
      have hd : d ≠ '/' := by
        rintro rfl
        exact hslash.2 List.mem_cons_self
      have hstarts : mark.isPrefixOf (d :: segment ++ mark ++ rest) = false := by
        rw [hmark, List.cons_append, List.cons_append, List.isPrefixOf_cons_cons]
        simp [Ne.symm hd]
      simp only [hstarts, Bool.false_eq_true, if_false]
      rw [ih (List.cons_ne_nil _ _) hslash.2 hline.2]
      simp only [List.reverse_cons, List.append_assoc, List.singleton_append]

/-- Where a match up to a mark fails, no part before the mark lets the rest match. -/
theorem next_eq_none_of_upTo {segment rest : List Char}
    (h : upTo mark next taken (segment ++ mark ++ rest) = none) (hnonempty : segment ≠ [])
    (hline : '\n' ∉ segment) : next rest = none := by
  induction segment generalizing taken with
  | nil => contradiction
  | cons c segment ih =>
    simp only [List.mem_cons, not_or] at hline
    have hc : ¬(c = '\n') := fun heq => hline.1 heq.symm
    rw [List.cons_append, List.cons_append, upTo, if_neg hc] at h
    cases segment with
    | nil =>
      have hstarts : mark.isPrefixOf (mark ++ rest) = true :=
        List.isPrefixOf_iff_prefix.mpr (List.prefix_append _ _)
      simp only [List.nil_append, hstarts, if_true, List.drop_left] at h
      cases hnext : next rest with
      | none => rfl
      | some value =>
        rw [hnext] at h
        contradiction
    | cons d segment =>
      refine @ih (c :: taken) ?_ (List.cons_ne_nil _ _) hline.2
      dsimp only at h
      split at h
      next => contradiction
      next => exact h

/-- The last part of a text that does not end in a line break is the whole of it. -/
theorem toEnd_eq_some_iff (hlast : cs.getLast? ≠ some '\n') :
    toEnd cs = some part ↔ part = cs ∧ cs ≠ [] ∧ '\n' ∉ cs := by
  simp only [toEnd, if_neg hlast]
  constructor
  · intro h
    split at h
    next => contradiction
    next hnot =>
      simp only [Bool.or_eq_true, List.isEmpty_iff, List.contains_iff_mem, not_or] at hnot
      exact ⟨(Option.some.inj h).symm, hnot.1, hnot.2⟩
  · rintro ⟨rfl, hnonempty, hline⟩
    rw [if_neg]
    simp only [Bool.or_eq_true, List.isEmpty_iff, List.contains_iff_mem, not_or]
    exact ⟨hnonempty, hline⟩

/-- The texts of the four parts, in order. -/
def Parts.texts (p : Parts) : List String := [p.project, p.location, p.cluster, p.leaf]

/-- What holds of every part holds of each of the four. -/
theorem Parts.forall_mem_texts {p : Parts} {holds : String → Prop} :
    (∀ part ∈ p.texts, holds part) ↔
      holds p.project ∧ holds p.location ∧ holds p.cluster ∧ holds p.leaf := by
  simp only [texts, List.mem_cons, List.not_mem_nil, or_false, forall_eq_or_imp, forall_eq]

/-- The name with the given parts. -/
def written (p : Parts) : String :=
  "projects/" ++ p.project ++ "/locations/" ++ p.location ++ "/clusters/" ++ p.cluster ++
    "/instances/" ++ p.leaf

/-- A text that has the shape of a name: it is the name with the given parts, of which none is
empty or holds a line break. -/
structure Fits (s : String) (p : Parts) : Prop where
  eq_written : s = written p
  plain : ∀ part ∈ p.texts, part ≠ "" ∧ '\n' ∉ part.toList

/-- The characters of a name, mark by mark. -/
theorem toList_written (p : Parts) : (written p).toList =
    InstanceName.projectMark.toList ++ (p.project.toList ++ InstanceName.locationMark.toList ++
      (p.location.toList ++ InstanceName.clusterMark.toList ++
        (p.cluster.toList ++ InstanceName.leafMark.toList ++ p.leaf.toList))) := by
  have hmarks : written p = InstanceName.projectMark ++ p.project ++ InstanceName.locationMark ++
      p.location ++ InstanceName.clusterMark ++ p.cluster ++ InstanceName.leafMark ++ p.leaf := rfl
  simp only [hmarks, String.toList_append, List.append_assoc]

/-- The parts that a match finds are parts the text fits, unless it ends in a line break. -/
theorem fits_of_parts? {s : String} {p : Parts} (hlast : s.toList.getLast? ≠ some '\n')
    (h : parts? s = some p) : Fits s p := by
  have hmade : ∀ cs : List Char, cs ≠ [] → '\n' ∉ cs →
      String.ofList cs ≠ "" ∧ '\n' ∉ (String.ofList cs).toList := by
    intro cs hnonempty hline
    refine ⟨fun hempty => hnonempty ?_, by rwa [String.toList_ofList]⟩
    rw [← String.toList_ofList (l := cs), hempty, String.toList_empty]
  simp only [parts?] at h
  split at h
  next hstart =>
    obtain ⟨whole, hwhole⟩ := List.isPrefixOf_iff_prefix.mp hstart
    rw [← hwhole, List.drop_left, Option.map_eq_some_iff] at h
    obtain ⟨⟨project, location, cluster, leaf⟩, hproject, rfl⟩ := h
    obtain ⟨project, rest₁, rfl, hp, hpl, hsplit₁, hlocation⟩ := eq_of_upTo hproject
    obtain ⟨location, rest₂, rfl, hl, hll, hsplit₂, hcluster⟩ := eq_of_upTo hlocation
    obtain ⟨cluster, rest₃, rfl, hc, hcl, hsplit₃, hleaf⟩ := eq_of_upTo hcluster
    subst hsplit₁ hsplit₂ hsplit₃
    have hend : rest₃.getLast? ≠ some '\n' := by
      intro heq
      refine hlast ?_
      simp only [← hwhole, List.getLast?_append, heq, Option.some_or]
    obtain ⟨rfl, hi, hil⟩ := (toEnd_eq_some_iff hend).mp hleaf
    refine ⟨String.toList_inj.mp ?_, Parts.forall_mem_texts.mpr ?_⟩
    · simp only [toList_written, ← hwhole, String.toList_ofList]
    · exact ⟨hmade project hp hpl, hmade location hl hll, hmade cluster hc hcl, hmade leaf hi hil⟩
  next => contradiction

/-- The match goes on behind the first mark of a text that fits some parts. -/
theorem parts?_of_fits {s : String} {p : Parts} (h : Fits s p) :
    parts? s = (upTo InstanceName.locationMark.toList
      (upTo InstanceName.clusterMark.toList (upTo InstanceName.leafMark.toList toEnd []) []) []
      (p.project.toList ++ InstanceName.locationMark.toList ++
        (p.location.toList ++ InstanceName.clusterMark.toList ++
          (p.cluster.toList ++ InstanceName.leafMark.toList ++ p.leaf.toList)))).map
      fun (project, location, cluster, leaf) =>
        ⟨String.ofList project, String.ofList location, String.ofList cluster,
          String.ofList leaf⟩ := by
  have hstart : InstanceName.projectMark.toList.isPrefixOf s.toList = true := by
    rw [h.eq_written, toList_written]
    exact List.isPrefixOf_iff_prefix.mpr (List.prefix_append _ _)
  simp only [parts?, if_pos hstart]
  rw [h.eq_written, toList_written, List.drop_left]

/-- The characters of a part are some, and no line break is among them. -/
theorem Fits.toList_part {s : String} {p : Parts} (h : Fits s p) :
    ∀ part ∈ p.texts, part.toList ≠ [] ∧ '\n' ∉ part.toList := by
  intro part hpart
  obtain ⟨hnonempty, hline⟩ := h.plain part hpart
  exact ⟨fun hempty => hnonempty (String.toList_eq_nil_iff.mp hempty), hline⟩

/-- The last part of a text that fits is taken whole. -/
theorem Fits.toEnd_leaf {s : String} {p : Parts} (h : Fits s p) :
    toEnd p.leaf.toList = some p.leaf.toList := by
  obtain ⟨-, -, -, hnonempty, hline⟩ := Parts.forall_mem_texts.mp h.toList_part
  exact (toEnd_eq_some_iff fun heq => hline (List.mem_of_getLast? heq)).mpr ⟨rfl, hnonempty, hline⟩

/-- A text that fits some parts is matched, if only by other parts: no backtracking loses it. -/
theorem parts?_ne_none {s : String} {p : Parts} (h : Fits s p) : parts? s ≠ none := by
  intro hnone
  obtain ⟨⟨hp, hpl⟩, ⟨hl, hll⟩, ⟨hc, hcl⟩, -⟩ := Parts.forall_mem_texts.mp h.toList_part
  rw [parts?_of_fits h, Option.map_eq_none_iff] at hnone
  have hlocation := next_eq_none_of_upTo hnone hp hpl
  have hcluster := next_eq_none_of_upTo hlocation hl hll
  have hleaf := next_eq_none_of_upTo hcluster hc hcl
  rw [h.toEnd_leaf] at hleaf
  contradiction

/-- A text that fits parts without a slash is matched by exactly those. -/
theorem parts?_of_slashless {s : String} {p : Parts} (h : Fits s p)
    (hslash : ∀ part ∈ p.texts, '/' ∉ part.toList) : parts? s = some p := by
  obtain ⟨⟨hp, hpl⟩, ⟨hl, hll⟩, ⟨hc, hcl⟩, -⟩ := Parts.forall_mem_texts.mp h.toList_part
  obtain ⟨hps, hls, hcs, -⟩ := Parts.forall_mem_texts.mp hslash
  have hcluster := upTo_segment hc hcs hcl h.toEnd_leaf
    (show InstanceName.leafMark.toList = '/' :: _ from rfl) []
  have hlocation := upTo_segment hl hls hll hcluster
    (show InstanceName.clusterMark.toList = '/' :: _ from rfl) []
  have hproject := upTo_segment hp hps hpl hlocation
    (show InstanceName.locationMark.toList = '/' :: _ from rfl) []
  rw [parts?_of_fits h, hproject]
  simp only [Option.map_some, List.reverse_nil, List.nil_append, String.ofList_toList]

end InstanceLink.Template
