import InstanceLink.Proofs.Console.Wrapping

/-!
# The front of the first line

A front that takes one cell a character and stands before a blank is printed as it is, on every
console that has room for it: its words are laid out without a break, so the first line starts
with it, and nothing of it hangs over or is cut.
-/

namespace InstanceLink.Console

section Blanks

variable {p : Char → Bool} {front cs : List Char}

/-- A run that ends inside a front is the same before any text. -/
theorem takeWhile_append_of_ne_nil (h : front.dropWhile p ≠ []) (cs : List Char) :
    (front ++ cs).takeWhile p = front.takeWhile p ∧
      (front ++ cs).dropWhile p = front.dropWhile p ++ cs := by
  have hlength : (front.takeWhile p).length ≠ front.length := by
    intro hall
    have hsplit := congrArg List.length (List.takeWhile_append_dropWhile (p := p) (l := front))
    rw [List.length_append, hall] at hsplit
    exact h (List.length_eq_zero_iff.mp (by omega))
  rw [List.takeWhile_append, if_neg hlength, List.dropWhile_append,
    if_neg (mt List.isEmpty_iff.mp h)]
  exact ⟨rfl, rfl⟩

/-- A run that takes a whole front goes on behind it. -/
theorem takeWhile_append_of_eq_nil (h : front.dropWhile p = []) (cs : List Char) :
    (front ++ cs).takeWhile p = front ++ cs.takeWhile p ∧
      (front ++ cs).dropWhile p = cs.dropWhile p := by
  have hall := List.dropWhile_eq_nil_iff.mp h
  exact ⟨List.takeWhile_append_of_pos hall, List.dropWhile_append_of_pos hall⟩

/-- What is left of a text that ends in ink ends in ink. -/
theorem withoutTrail_of_append (first : List Char) {later : List Char}
    (h : withoutTrail (first ++ later) = first ++ later) : withoutTrail later = later := by
  rw [withoutTrail_append] at h
  split at h
  · have hlength := congrArg List.length h
    have hle := (withoutTrail_isPrefix first).length_le
    rw [List.length_append] at hlength
    rw [List.length_eq_zero_iff.mp (by omega : later.length = 0)]
    rfl
  · exact List.append_cancel_left h

/-- A text that ends in ink is more than blanks. -/
theorem dropWhile_ne_nil_of_withoutTrail (h : withoutTrail front = front) (hne : front ≠ []) :
    front.dropWhile Text.isBlank ≠ [] := by
  intro hall
  have hnone : withoutTrail front = [] :=
    List.rdropWhile_eq_nil_iff.mpr (List.dropWhile_eq_nil_iff.mp hall)
  exact hne (h.symm.trans hnone)

end Blanks

section Words

variable {width : Nat} {front behind : List Char} {blank : Char}

/-- The first word of a front before a blank ends inside it, or is all of it with the blanks
behind. -/
theorem exists_wordsFrom_eq_cons (hink : withoutTrail front = front) (hne : front ≠ [])
    (hblank : Text.isBlank blank = true) (start fuel : Nat) :
    ∃ first later trail rest, front = first ++ later ∧ withoutTrail later = later ∧
      (∀ c ∈ trail, Text.isBlank c = true) ∧
      wordsFrom start (front ++ blank :: behind) (fuel + 1) =
        ⟨start, first ++ trail⟩ :: wordsFrom (start + (first ++ trail).length) rest fuel ∧
      (trail = [] ∧ rest = later ++ blank :: behind ∨ later = []) := by
  obtain ⟨body, hbody⟩ : ∃ body, front.dropWhile Text.isBlank = body := ⟨_, rfl⟩
  have hsplit : front.takeWhile Text.isBlank ++ body = front := by
    rw [← hbody, List.takeWhile_append_dropWhile]
  have hbodyInk : withoutTrail body = body :=
    withoutTrail_of_append (front.takeWhile Text.isBlank) (by rw [hsplit, hink])
  obtain ⟨htake, hdrop⟩ := takeWhile_append_of_ne_nil
    (dropWhile_ne_nil_of_withoutTrail hink hne) (blank :: behind)
  rw [hbody] at hdrop
  have hfull : (body ++ blank :: behind).isEmpty = false := by simp
  simp only [wordsFrom, htake, hdrop, hfull, Bool.false_eq_true, if_false]
  obtain ⟨tail, htail⟩ : ∃ tail, body.dropWhile (fun c => !Text.isBlank c) = tail := ⟨_, rfl⟩
  by_cases hempty : tail = []
  · -- The word reaches to the end of the front, and the blanks behind are its own.
    subst hempty
    obtain ⟨hword, hrest⟩ := takeWhile_append_of_eq_nil htail (blank :: behind)
    have hnot : ¬(!Text.isBlank blank) = true := by simp [hblank]
    rw [List.takeWhile_cons_of_neg (p := fun c => !Text.isBlank c) hnot, List.append_nil] at hword
    rw [List.dropWhile_cons_of_neg (p := fun c => !Text.isBlank c) hnot] at hrest
    refine ⟨front, [], (blank :: behind).takeWhile Text.isBlank,
      (blank :: behind).dropWhile Text.isBlank, (List.append_nil _).symm, rfl,
      fun c hc => List.mem_takeWhile_imp hc, ?_, .inr rfl⟩
    rw [hword, hrest, hsplit]
  · have hword := takeWhile_append_of_ne_nil (htail ▸ hempty) (blank :: behind)
    rw [htail] at hword
    have htailInk : withoutTrail tail = tail := by
      refine withoutTrail_of_append (body.takeWhile fun c => !Text.isBlank c) ?_
      rw [← htail, List.takeWhile_append_dropWhile, hbodyInk]
    obtain ⟨hblanks, hlater⟩ := takeWhile_append_of_ne_nil
      (dropWhile_ne_nil_of_withoutTrail htailInk hempty) (blank :: behind)
    refine ⟨front.takeWhile Text.isBlank ++ (body.takeWhile fun c => !Text.isBlank c) ++
      tail.takeWhile Text.isBlank, tail.dropWhile Text.isBlank, [],
      tail.dropWhile Text.isBlank ++ blank :: behind, ?_, ?_, List.forall_mem_nil _, ?_,
      .inl ⟨rfl, rfl⟩⟩
    · rw [List.append_assoc, List.takeWhile_append_dropWhile, List.append_assoc, ← htail,
        List.takeWhile_append_dropWhile, hsplit]
    · refine withoutTrail_of_append (tail.takeWhile Text.isBlank) ?_
      rw [List.takeWhile_append_dropWhile, htailInk]
    · rw [hword.1, hword.2, hblanks, hlater, List.append_nil]

/-- The breaks before pieces stand behind the start of the first. -/
theorem le_of_mem_pieceBreaks {start : Nat} {pieces : List (List Char)} :
    ∀ b ∈ pieceBreaks start pieces, start ≤ b := by
  induction pieces generalizing start with
  | nil => nofun
  | cons piece rest ih =>
    intro b hb
    rcases List.mem_append.mp hb with hb | hb
    · split at hb
      · contradiction
      · exact Nat.le_of_eq (List.mem_singleton.mp hb).symm
    · exact (Nat.le_add_right _ _).trans (ih b hb)

/-- Laying out a word breaks no line before it. -/
theorem Layout.mem_breaks_place {l : Layout} {w : Word} :
    ∀ b ∈ (l.place width .fold w).breaks, b ∈ l.breaks ∨ w.start ≤ b := by
  intro b hb
  unfold Layout.place at hb
  dsimp only at hb
  split at hb
  · exact .inl hb
  · split at hb
    · exact (List.mem_append.mp hb).imp_right (le_of_mem_pieceBreaks b)
    · split at hb
      · exact .inl hb
      · exact (List.mem_append.mp hb).imp_right fun h => Nat.le_of_eq (List.mem_singleton.mp h).symm

/-- Laying out words in a row breaks no line before them. -/
theorem Layout.mem_breaks_foldl {start : Nat} {ws : List Word} (h : Consecutive start ws)
    {l : Layout} : ∀ b ∈ (ws.foldl (Layout.place width .fold) l).breaks,
      b ∈ l.breaks ∨ start ≤ b := by
  induction ws generalizing start l with
  | nil => exact fun b hb => .inl hb
  | cons w rest ih =>
    intro b hb
    rcases ih h.2 b hb with hb | hb
    · exact (Layout.mem_breaks_place b hb).imp_right (h.1 ▸ ·)
    · exact .inr ((Nat.le_add_right _ _).trans hb)

/-- A front that has room on the line is laid out without a break. -/
theorem Layout.mem_breaks_front (hsingle : ∀ c ∈ front, cellsOf c = 1)
    (hink : withoutTrail front = front) (hblank : Text.isBlank blank = true) {l : Layout}
    (hroom : l.used + front.length ≤ width) (start fuel : Nat) :
    ∀ b ∈ ((wordsFrom start (front ++ blank :: behind) fuel).foldl
      (Layout.place width .fold) l).breaks, b ∈ l.breaks ∨ start + front.length ≤ b := by
  induction fuel generalizing front start l with
  | zero => exact fun b hb => .inl hb
  | succ fuel ih =>
    by_cases hne : front = []
    · subst hne
      exact Layout.mem_breaks_foldl (consecutive_wordsFrom start _ _)
    · obtain ⟨first, later, trail, rest, rfl, hlater, htrail, hwords, hrest⟩ :=
        exists_wordsFrom_eq_cons hink hne hblank start fuel
      rw [hwords, List.foldl_cons]
      have hcells : cells first = first.length :=
        cells_of_single fun c hc => hsingle c (List.mem_append_left _ hc)
      -- The first word has room on the line, the blanks behind it aside.
      have hfits : cells (withoutTrail (first ++ trail)) ≤ first.length := by
        have hnone : withoutTrail trail = [] := List.rdropWhile_eq_nil_iff.mpr htrail
        rw [withoutTrail_append, if_pos hnone, ← hcells]
        exact cells_le_of_isPrefix (withoutTrail_isPrefix first)
      rw [List.length_append] at hroom
      have hplace : l.place width .fold ⟨start, first ++ trail⟩ =
          ⟨l.used + cells (first ++ trail), l.breaks⟩ := if_pos (by dsimp only; omega)
      rw [hplace]
      rcases hrest with ⟨rfl, rfl⟩ | rfl
      · have hnext := ih (fun c hc => hsingle c (List.mem_append_right _ hc)) hlater
          (l := ⟨l.used + cells (first ++ []), l.breaks⟩)
          (by rw [List.append_nil, hcells]; dsimp only; omega) (start + (first ++ []).length)
        simpa only [List.append_nil, List.length_append, Nat.add_assoc] using hnext
      · intro b hb
        refine (Layout.mem_breaks_foldl (consecutive_wordsFrom _ rest fuel) b hb).imp_right ?_
        rw [List.length_append, List.append_nil]
        omega

/-- A front that is not broken stands at the front of the first piece. -/
theorem exists_divide_eq_cons (front cs : List Char) {row : List Nat}
    (h : ∀ b ∈ row, front.length ≤ b) :
    ∃ piece rest, divide 0 (front ++ cs) row = (front ++ piece) :: rest := by
  cases row with
  | nil => exact ⟨cs, [], rfl⟩
  | cons b row =>
    have hb := h b List.mem_cons_self
    rw [divide, Nat.sub_zero, List.take_append, List.take_of_length_le hb]
    exact ⟨_, _, rfl⟩

/-- A front that ends in ink and has room on the line is printed as it is. -/
theorem prefix_printedPiece (hwidth : 0 < width) (hsingle : ∀ c ∈ front, cellsOf c = 1)
    (hink : withoutTrail front = front) (hroom : front.length ≤ width) (behind : List Char) :
    front <+: printedPiece width (front ++ behind) := by
  have hkept := withoutTrail_append_isPrefix front behind
  rw [hink] at hkept
  exact prefix_truncate hwidth hsingle hroom
    (hkept.trans (withoutTrail_prefix_cropTrail width (front ++ behind)))

/-- A front of plain characters of one cell each that ends in ink and stands before a space is
printed as it is, on every console that has room for it. -/
theorem prefix_printedLines (hwidth : 0 < width) (hsingle : ∀ c ∈ front, cellsOf c = 1)
    (hmark : '\n' ∉ front) (htab : '\t' ∉ front) (hink : withoutTrail front = front)
    (hroom : front.length ≤ width) (behind : List Char) :
    front <+: printedLines width (wrap width .fold .unfilled (front ++ ' ' :: behind)) := by
  have hspaced : front ++ ' ' :: behind = (front ++ [' ']) ++ behind := by simp
  obtain ⟨line, rest, hlines⟩ := @lines_append (front ++ [' ']) (by simp [hmark]) behind
  obtain ⟨expanded, hexpanded⟩ := @expandTabs_append (front ++ [' ']) (by simp [htab]) 0 line
  have hline : front ++ [' '] ++ expanded = front ++ ' ' :: expanded := by simp
  have hbreaks : ∀ b ∈ breaks width .fold (front ++ ' ' :: expanded), front.length ≤ b := by
    intro b hb
    have hroom' : (⟨0, []⟩ : Layout).used + front.length ≤ width := by
      rwa [Nat.zero_add]
    rcases Layout.mem_breaks_front hsingle hink rfl hroom' 0 _ b hb with hnone | hle
    · contradiction
    · rwa [Nat.zero_add] at hle
  obtain ⟨piece, others, hdivide⟩ := exists_divide_eq_cons front (' ' :: expanded) hbreaks
  rw [hspaced, printedLines_wrap, hlines, List.flatMap_cons, hexpanded, hline, hdivide,
    List.flatMap_cons, List.append_assoc, List.append_assoc]
  exact (prefix_printedPiece hwidth hsingle hink hroom piece).trans (List.prefix_append _ _)

end Words

end InstanceLink.Console
