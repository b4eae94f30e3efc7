import InstanceLink.Instance.Reader
import InstanceLink.Proofs.Instance.Matching
import InstanceLink.Proofs.Result
import InstanceLink.Proofs.Text.Trimming

/-!
# The grammar of instance names

A text names an instance exactly when, without the blanks around it, it is the four marks
with four segments behind them that hold neither slash nor line break, and then it names
those segments. Every other text is refused: it does not have the shape of a name, or each
part that is no segment is reported.
-/

namespace InstanceLink

/-- The errors of two checked fields are those of the first, then those of the second. -/
theorem Checked.errors_both {α β : Type} (a : Checked α) (b : Checked β) :
    (Checked.both a b).errors = a.errors ++ b.errors := by
  cases a <;> cases b <;> rfl

/-- A text can be a segment exactly when it is not empty and holds no slash. -/
theorem isSegment_iff {s : String} : isSegment s = true ↔ s ≠ "" ∧ '/' ∉ s.toList := by
  simp [isSegment]

namespace InstanceName

open Template (Parts)

/-- The error of a part that is no segment. -/
def partError (field part : String) : FieldError :=
  ⟨[.field field], .rule ("invalid resource name segment: " ++ Text.quoted part), .text part⟩

/-- The check of one part. -/
def checkedPart (field part : String) : Checked Segment :=
  if h : isSegment part = true then .ok ⟨part, h⟩ else .error [partError field part]

/-- The parts of a name by their fields. -/
def namedParts (p : Parts) : List (String × String) :=
  [("project", p.project), ("location", p.location), ("cluster", p.cluster), ("instance", p.leaf)]

/-- The errors of the parts that are no segments, in order. -/
def partErrors (p : Parts) : List FieldError :=
  (namedParts p).flatMap fun (field, part) =>
    if isSegment part = true then [] else [partError field part]

/-- The parts of an instance's own name. -/
def parts (n : InstanceName) : Parts :=
  ⟨n.project.text, n.location.text, n.cluster.text, n.leaf.text⟩

/-- The fields in which the parts of a written name are offered. -/
def partFields (p : Parts) : Fields :=
  [("project", .text p.project), ("location", .text p.location), ("cluster", .text p.cluster),
    ("instance", .text p.leaf)]

/-- A part that is offered as a text is checked as a segment. -/
theorem segment_text (field part : String) :
    (segment (.text part)).mapError (fun fault => [⟨[.field field], fault, .text part⟩]) =
      checkedPart field part := by
  by_cases hs : isSegment part = true
  · have hfound : Segment.ofText? part = some ⟨part, hs⟩ := dif_pos hs
    simp only [segment, FieldRule.text, bind, Except.bind, hfound, checkedPart, dif_pos hs]
    rfl
  · have hnone : Segment.ofText? part = none := dif_neg hs
    simp only [segment, FieldRule.text, bind, Except.bind, hnone, checkedPart, dif_neg hs]
    rfl

/-- A part passes its check exactly when it is the text of a segment. -/
theorem checkedPart_eq_ok_iff {field part : String} {s : Segment} :
    checkedPart field part = .ok s ↔ part = s.text := by
  rw [checkedPart]
  constructor
  · intro h
    split at h
    next =>
      cases h
      rfl
    next => contradiction
  · rintro rfl
    rw [dif_pos s.valid]

/-- The errors of one part: none when it is a segment, otherwise its own. -/
theorem errors_checkedPart (field part : String) :
    (checkedPart field part).errors =
      if isSegment part = true then [] else [partError field part] := by
  rw [checkedPart]
  split <;> rfl

/-- The checks of all parts. -/
def checkedParts (p : Parts) : Checked ((Segment × Segment) × Segment × Segment) :=
  Checked.both
    (Checked.both (checkedPart "project" p.project) (checkedPart "location" p.location))
    (Checked.both (checkedPart "cluster" p.cluster) (checkedPart "instance" p.leaf))

/-- The parts of a written name are checked one by one. -/
theorem ofFields_partFields (p : Parts) :
    ofFields (partFields p) = (checkedParts p).map fun ((project, location), cluster, leaf) =>
      ⟨project, location, cluster, leaf⟩ := by
  simp only [checkedParts, ← segment_text]
  rfl

/-- The errors of all parts are those of the parts that are no segments. -/
theorem errors_checkedParts (p : Parts) : (checkedParts p).errors = partErrors p := by
  simp only [checkedParts, Checked.errors_both, errors_checkedPart, partErrors, namedParts,
    List.flatMap_cons, List.flatMap_nil, List.append_nil, List.append_assoc]

/-- Parts make an instance exactly when they are the parts of its name. -/
theorem ofFields_eq_ok_iff {p : Parts} {n : InstanceName} :
    ofFields (partFields p) = .ok n ↔ p = n.parts := by
  rw [ofFields_partFields]
  obtain ⟨project, location, cluster, leaf⟩ := n
  obtain ⟨p, l, c, i⟩ := p
  have hparts : (⟨p, l, c, i⟩ : Parts) = parts ⟨project, location, cluster, leaf⟩ ↔
      checkedParts ⟨p, l, c, i⟩ = .ok ((project, location), cluster, leaf) := by
    simp only [checkedParts, Checked.both_eq_ok, checkedPart_eq_ok_iff, parts, Parts.mk.injEq,
      and_assoc]
  rw [hparts]
  cases checkedParts ⟨p, l, c, i⟩ with
  | ok segments =>
    obtain ⟨⟨a, b⟩, c, d⟩ := segments
    simp only [Except.map, Except.ok.injEq, InstanceName.mk.injEq, Prod.mk.injEq, and_assoc]
  | error errors => simp only [Except.map, reduceCtorEq]

/-- Parts are those of an instance's name exactly when all are segments. -/
theorem exists_parts_eq_iff {p : Parts} :
    (∃ n : InstanceName, n.parts = p) ↔ ∀ part ∈ p.texts, isSegment part = true := by
  rw [Parts.forall_mem_texts]
  constructor
  · rintro ⟨n, rfl⟩
    exact ⟨n.project.valid, n.location.valid, n.cluster.valid, n.leaf.valid⟩
  · rintro ⟨hp, hl, hc, hi⟩
    exact ⟨⟨⟨p.project, hp⟩, ⟨p.location, hl⟩, ⟨p.cluster, hc⟩, ⟨p.leaf, hi⟩⟩, rfl⟩

/-- There are no errors exactly when all parts are segments. -/
theorem partErrors_eq_nil_iff {p : Parts} :
    partErrors p = [] ↔ ∀ part ∈ p.texts, isSegment part = true := by
  have hpart : ∀ field part, (if isSegment part = true then [] else [partError field part]) = [] ↔
      isSegment part = true := by
    intro field part
    split <;> simp_all
  simp only [Parts.forall_mem_texts, partErrors, namedParts, List.flatMap_eq_nil_iff,
    List.mem_cons, List.not_mem_nil, or_false, forall_eq_or_imp, forall_eq, hpart]

/-- Parts that are refused are refused with the errors of those that are no segments. -/
theorem eq_partErrors_of_error {p : Parts} {errors : List FieldError}
    (h : ofFields (partFields p) = .error errors) : errors = partErrors p ∧ errors ≠ [] := by
  have heq : errors = partErrors p := by
    rw [ofFields_partFields] at h
    rw [← errors_checkedParts]
    cases hchecked : checkedParts p with
    | ok segments =>
      rw [hchecked] at h
      contradiction
    | error found =>
      rw [hchecked] at h
      cases h
      rfl
  refine ⟨heq, fun hnil => ?_⟩
  obtain ⟨n, rfl⟩ := exists_parts_eq_iff.mpr (partErrors_eq_nil_iff.mp (heq ▸ hnil))
  rw [ofFields_eq_ok_iff.mpr rfl] at h
  contradiction

/-- A name is the written name with its parts. -/
theorem text_eq_written (n : InstanceName) : n.text = Template.written n.parts := rfl

/-- The parts of an instance's name hold no slash. -/
theorem slashless_of_mem_texts {n : InstanceName} : ∀ part ∈ n.parts.texts, '/' ∉ part.toList := by
  intro part hpart
  exact (isSegment_iff.mp (exists_parts_eq_iff.mp ⟨n, rfl⟩ part hpart)).2

/-- A text without the blanks around it does not end in a line break. -/
theorem getLast?_strip_ne_newline (s : String) : (Text.strip s).toList.getLast? ≠ some '\n' := by
  intro heq
  rw [Text.toList_strip] at heq
  exact absurd (Text.drop_of_getLast?_trimBy heq) (by decide)

/-- A text with the shape of a name is read from its parts. -/
theorem read_of_parts? {s : String} {p : Parts} (h : Template.parts? (Text.strip s) = some p) :
    read s = (ofFields (partFields p)).mapError .segments := by
  rw [read, h, partFields]

/-- A text without the shape of a name is refused as a whole. -/
theorem read_of_parts?_eq_none {s : String} (h : Template.parts? (Text.strip s) = none) :
    read s = .error (.shape s) := by
  rw [read, h]

/-- A text reads as an instance exactly when the shape of a name settles on its parts. -/
theorem read_eq_ok_iff_parts? {s : String} {n : InstanceName} :
    read s = .ok n ↔ Template.parts? (Text.strip s) = some n.parts := by
  cases hp : Template.parts? (Text.strip s) with
  | none =>
    rw [read_of_parts?_eq_none hp]
    simp only [reduceCtorEq]
  | some p =>
    rw [read_of_parts? hp, mapError_eq_ok_iff, ofFields_eq_ok_iff, Option.some.injEq]

/-- A text reads as an instance exactly when it fits the parts of the instance's name. -/
theorem read_eq_ok_iff_fits {s : String} {n : InstanceName} :
    read s = .ok n ↔ Template.Fits (Text.strip s) n.parts := by
  rw [read_eq_ok_iff_parts?]
  constructor
  · exact Template.fits_of_parts? (getLast?_strip_ne_newline s)
  · intro h
    exact Template.parts?_of_slashless h slashless_of_mem_texts

/-- An instance that some text names is named by its own written name. -/
theorem read_text_of_read {s : String} {n : InstanceName} (h : read s = .ok n) :
    read n.text = .ok n := by
  have hfits := read_eq_ok_iff_fits.mp h
  have htext : Text.strip s = n.text := hfits.eq_written.trans (text_eq_written n).symm
  rw [read_eq_ok_iff_fits, ← htext, Text.strip_strip]
  exact hfits

/-- What reading makes of a text. It gives an instance exactly when the text, without the blanks
around it, is the name with four parts that are not empty and hold neither slash nor line break,
and then it gives those parts. Any other text is refused: as a whole when it does not even have
the shape of a name, otherwise with the error of each part that is no segment. -/
theorem read_grammar (s : String) :
    (∀ p, (∃ n, read s = .ok n ∧ n.parts = p) ↔
      Template.Fits (Text.strip s) p ∧ ∀ part ∈ p.texts, '/' ∉ part.toList) ∧
    ((∃ n, read s = .ok n) ∨
      (read s = .error (.shape s) ∧ ∀ p, ¬Template.Fits (Text.strip s) p) ∨
      ∃ p, Template.Fits (Text.strip s) p ∧ partErrors p ≠ [] ∧
        read s = .error (.segments (partErrors p))) := by
  constructor
  · intro p
    constructor
    · rintro ⟨n, hread, rfl⟩
      exact ⟨read_eq_ok_iff_fits.mp hread, slashless_of_mem_texts⟩
    · rintro ⟨hfits, hslash⟩
      obtain ⟨n, rfl⟩ := exists_parts_eq_iff.mpr fun part hpart =>
        isSegment_iff.mpr ⟨(hfits.plain part hpart).1, hslash part hpart⟩
      exact ⟨n, read_eq_ok_iff_fits.mpr hfits, rfl⟩
  · cases hp : Template.parts? (Text.strip s) with
    | none =>
      exact .inr (.inl ⟨read_of_parts?_eq_none hp, fun p hfits =>
        Template.parts?_ne_none hfits hp⟩)
    | some p =>
      have hfits := Template.fits_of_parts? (getLast?_strip_ne_newline s) hp
      cases hfields : ofFields (partFields p) with
      | ok n => exact .inl ⟨n, by rw [read_of_parts? hp, hfields]; rfl⟩
      | error errors =>
        obtain ⟨rfl, herrors⟩ := eq_partErrors_of_error hfields
        exact .inr (.inr ⟨p, hfits, herrors, by rw [read_of_parts? hp, hfields]; rfl⟩)

/-- A name whose segments are the words of its marks, with blanks around it. -/
def repeatedMarks : String :=
  " projects/locations/locations/clusters/clusters/instances/instances/projects\n"

/-- The marks are told from the segments. -/
theorem read_grammar_repeatedMarks :
    (∀ part ∈ Parts.texts ⟨"locations", "clusters", "instances", "projects"⟩,
      '/' ∉ part.toList) ∧
    ∃ n, read repeatedMarks = .ok n ∧
      n.parts = ⟨"locations", "clusters", "instances", "projects"⟩ := by
  have hslash : ∀ part ∈ Parts.texts ⟨"locations", "clusters", "instances", "projects"⟩,
      '/' ∉ part.toList := Parts.forall_mem_texts.mpr (by decide)
  have hfits : Template.Fits (Text.strip repeatedMarks)
      ⟨"locations", "clusters", "instances", "projects"⟩ :=
    ⟨by decide, Parts.forall_mem_texts.mpr (by decide)⟩
  exact ⟨hslash, ((read_grammar repeatedMarks).1 _).mpr ⟨hfits, hslash⟩⟩

end InstanceName

end InstanceLink
