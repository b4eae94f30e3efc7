import InstanceLink.Proofs.Instance.Separation

/-!
# Which names are read back

Reading the written name of an instance gives its four parts without the blanks at the end of
the last one, provided that no line break is left among them; otherwise the name is refused. So a
name is read back as itself exactly when it stands on one line and does not end with a blank, and
every name that was read is one of these.
-/

namespace InstanceLink.InstanceName

open Template (Parts)

/-- The parts of an instance's name without the blanks at the end. -/
def trimmedParts (n : InstanceName) : Parts :=
  { n.parts with leaf := String.ofList (n.leaf.text.toList.rdropWhile Text.isBlank) }

/-- Trimming a written name trims the end of its last part. -/
theorem strip_text (n : InstanceName) : Text.strip n.text = Template.written n.trimmedParts := by
  have hsplit : n.text.toList =
      (projectMark.toList ++ (n.project.text.toList ++ locationMark.toList ++
        (n.location.text.toList ++ clusterMark.toList ++
          (n.cluster.text.toList ++ leafMark.toList)))) ++ n.leaf.text.toList := by
    rw [text_eq_written, Template.toList_written]
    simp only [parts, List.append_assoc]
  have hfirst : projectMark.toList.head? = some 'p' := by decide
  have hlast : leafMark.toList.getLast? = some '/' := by decide
  have hp : Text.isBlank 'p' = false := by decide
  have hslash : Text.isBlank '/' = false := by decide
  apply String.toList_inj.mp
  rw [Text.toList_strip, hsplit, Text.trimBy_append, Template.toList_written]
  · simp only [trimmedParts, parts, String.toList_ofList, List.append_assoc]
  · intro c hc
    rw [List.head?_append, hfirst, Option.some_or, Option.some.injEq] at hc
    rwa [← hc]
  · intro c hc
    simp only [List.getLast?_append, hlast, Option.some_or, Option.some.injEq] at hc
    rwa [← hc]
  · exact List.append_ne_nil_of_left_ne_nil (by decide) _

/-- Trimming brings no slash into a name. -/
theorem slashless_of_mem_trimmedParts {n : InstanceName} :
    ∀ part ∈ n.trimmedParts.texts, '/' ∉ part.toList := by
  obtain ⟨hproject, hlocation, hcluster, hleaf⟩ :=
    Parts.forall_mem_texts.mp (slashless_of_mem_texts (n := n))
  refine Parts.forall_mem_texts.mpr ⟨hproject, hlocation, hcluster, fun hmem => hleaf ?_⟩
  rw [trimmedParts, String.toList_ofList] at hmem
  exact (List.rdropWhile_prefix _ _).subset hmem

/-- A written name is read as its parts without the blanks at the end, where these hold no line
break. -/
theorem read_text_eq_ok_iff {n m : InstanceName} :
    read n.text = .ok m ↔
      m.parts = n.trimmedParts ∧ ∀ part ∈ m.parts.texts, '\n' ∉ part.toList := by
  rw [read_eq_ok_iff_fits, strip_text]
  constructor
  · intro hfits
    exact ⟨Template.written_inj slashless_of_mem_texts slashless_of_mem_trimmedParts
      hfits.eq_written.symm, fun part hpart => (hfits.plain part hpart).2⟩
  · rintro ⟨hparts, hline⟩
    refine ⟨congrArg Template.written hparts.symm, fun part hpart => ⟨?_, hline part hpart⟩⟩
    exact (isSegment_iff.mp (exists_parts_eq_iff.mp ⟨m, rfl⟩ part hpart)).1

/-- Nothing is trimmed exactly when a name does not end with a blank. -/
theorem trimmedParts_eq_parts_iff {n : InstanceName} :
    n.trimmedParts = n.parts ↔
      ∀ c, n.leaf.text.toList.getLast? = some c → Text.isBlank c = false := by
  have hleaf : n.trimmedParts = n.parts ↔
      n.leaf.text.toList.rdropWhile Text.isBlank = n.leaf.text.toList := by
    simp only [trimmedParts, parts, Parts.mk.injEq, true_and]
    rw [← String.toList_inj, String.toList_ofList]
  rw [hleaf, List.rdropWhile_eq_self_iff]
  constructor
  · intro h c hc
    have hne : n.leaf.text.toList ≠ [] := by
      intro hnil
      rw [hnil] at hc
      contradiction
    rw [List.getLast?_eq_some_getLast hne, Option.some.injEq] at hc
    rw [← hc]
    exact Bool.eq_false_iff.mpr (h hne)
  · intro h hne
    exact Bool.eq_false_iff.mp (h _ (List.getLast?_eq_some_getLast hne))

/-- A written name is read as the instance of the same cluster whose last segment is the one
written without the blanks at its end, where that stands on one line. -/
theorem read_text_eq_ok_iff_sharesCluster {n m : InstanceName} :
    read n.text = .ok m ↔ m.SharesCluster n ∧
      m.leaf.text.toList = n.leaf.text.toList.rdropWhile Text.isBlank ∧
      ∀ part ∈ m.parts.texts, '\n' ∉ part.toList := by
  rw [read_text_eq_ok_iff, ← and_assoc]
  refine and_congr_left fun _ => ?_
  simp only [parts, trimmedParts, Parts.mk.injEq]
  constructor
  · rintro ⟨hproject, hlocation, hcluster, hleaf⟩
    refine ⟨⟨Segment.eq_of_text_eq hproject, Segment.eq_of_text_eq hlocation,
      Segment.eq_of_text_eq hcluster⟩, ?_⟩
    rw [hleaf, String.toList_ofList]
  · rintro ⟨⟨hproject, hlocation, hcluster⟩, hleaf⟩
    exact ⟨congrArg Segment.text hproject, congrArg Segment.text hlocation,
      congrArg Segment.text hcluster, by rw [← hleaf, String.ofList_toList]⟩

/-- An instance's name is read back as that instance exactly when it stands on one line and does
not end with a blank. Of any other name, reading gives at most the instance of the same cluster
without the blanks at the end, and that one where it stands on one line. Every name that was read
is read back, so that reading what was read and written again changes nothing. -/
theorem read_text_laws :
    (∀ n : InstanceName, read n.text = .ok n ↔
        (∀ part ∈ [n.project.text, n.location.text, n.cluster.text, n.leaf.text],
          '\n' ∉ part.toList) ∧
        ∀ c, n.leaf.text.toList.getLast? = some c → Text.isBlank c = false) ∧
      (∀ n m : InstanceName, read n.text = .ok m ↔ m.SharesCluster n ∧
        m.leaf.text.toList = n.leaf.text.toList.rdropWhile Text.isBlank ∧
        ∀ part ∈ [m.project.text, m.location.text, m.cluster.text, m.leaf.text],
          '\n' ∉ part.toList) ∧
      ∀ s n, read s = .ok n →
        (∀ part ∈ [n.project.text, n.location.text, n.cluster.text, n.leaf.text],
          '\n' ∉ part.toList) ∧
        (∀ c, n.leaf.text.toList.getLast? = some c → Text.isBlank c = false) ∧
        read n.text = .ok n := by
  have hself : ∀ n : InstanceName, read n.text = .ok n ↔
      (∀ part ∈ n.parts.texts, '\n' ∉ part.toList) ∧
        ∀ c, n.leaf.text.toList.getLast? = some c → Text.isBlank c = false := by
    intro n
    rw [read_text_eq_ok_iff, eq_comm, trimmedParts_eq_parts_iff, and_comm]
  refine ⟨hself, fun n m => read_text_eq_ok_iff_sharesCluster, fun s n h => ?_⟩
  have hagain := read_text_of_read h
  obtain ⟨hline, hend⟩ := (hself n).mp hagain
  exact ⟨hline, hend, hagain⟩

/-- A name with a blank and a word of the marks inside its segments is read back. With a blank at
its end it is read as that one, and with a line break in a segment not at all. -/
theorem read_text_laws_blankEnd :
    ∃ n blank broken : InstanceName, n.leaf.text = "instances projects" ∧
      blank.leaf.text = "instances projects\u3000" ∧ broken.cluster.text = "c\n" ∧
      read n.text = .ok n ∧ read blank.text = .ok n ∧ ∀ m, read broken.text ≠ .ok m := by
  obtain ⟨hself, hany, -⟩ := read_text_laws
  refine ⟨⟨⟨"\tp", by decide⟩, ⟨"l", by decide⟩, ⟨"c", by decide⟩,
      ⟨"instances projects", by decide⟩⟩,
    ⟨⟨"\tp", by decide⟩, ⟨"l", by decide⟩, ⟨"c", by decide⟩,
      ⟨"instances projects\u3000", by decide⟩⟩,
    ⟨⟨"p", by decide⟩, ⟨"l", by decide⟩, ⟨"c\n", by decide⟩, ⟨"i", by decide⟩⟩,
    rfl, rfl, rfl, ?_, ?_, ?_⟩
  · refine (hself _).mpr ⟨by decide, fun c hc => ?_⟩
    cases hc
    decide
  · exact (hany _ _).mpr ⟨⟨rfl, rfl, rfl⟩, by decide, by decide⟩
  · intro m hm
    obtain ⟨hcluster, -, hline⟩ := (hany _ _).mp hm
    rw [hcluster.cluster_eq] at hline
    exact hline "c\n" (by simp) (by decide)

end InstanceLink.InstanceName
