import InstanceLink.Console.Table
import InstanceLink.Proofs.Console.Fitting
import InstanceLink.Proofs.Text.Trimming
import Mathlib.Data.List.DropRight

/-!
# Texts printed in lines

However narrow a console is, a text is printed with all its ink at the front, as long as that
takes one cell a character: lines break between words or inside those that are too long, and
only blanks and what is too wide for a line of its own are given up.
-/

namespace InstanceLink.Console

/-- The characters of a text that are not blank. -/
def ink (cs : List Char) : List Char := cs.filter fun c => !Text.isBlank c

/-- The ink of texts in a row is that of each. -/
theorem ink_append (cs ds : List Char) : ink (cs ++ ds) = ink cs ++ ink ds := List.filter_append ..

/-- A front has the ink at the front. -/
theorem ink_isPrefix {front cs : List Char} (h : front <+: cs) : ink front <+: ink cs := h.filter _

/-- Blanks have no ink. -/
theorem ink_of_blank {cs : List Char} (h : ∀ c ∈ cs, Text.isBlank c = true) : ink cs = [] := by
  rw [ink, List.filter_eq_nil_iff]
  intro c hc
  rw [h c hc]
  decide

section Trail

/-- A text without its trail, in the terms of the library. -/
theorem withoutTrail_eq (cs : List Char) : withoutTrail cs = cs.rdropWhile Text.isBlank := rfl

/-- A text without its trail stands at its front. -/
theorem withoutTrail_isPrefix (cs : List Char) : withoutTrail cs <+: cs :=
  List.rdropWhile_prefix Text.isBlank cs

/-- The trail of a text has no ink. -/
theorem ink_withoutTrail (cs : List Char) : ink (withoutTrail cs) = ink cs := by
  have htrail : ink (cs.rtakeWhile Text.isBlank) = [] :=
    ink_of_blank fun c hc => List.mem_rtakeWhile_imp hc
  conv_rhs => rw [← List.rdropWhile_append_rtakeWhile (p := Text.isBlank) (l := cs)]
  rw [ink_append, htrail, List.append_nil, withoutTrail_eq]

/-- The trail of texts in a row is that of the last, or goes on into the first. -/
theorem withoutTrail_append (cs ds : List Char) :
    withoutTrail (cs ++ ds) =
      if withoutTrail ds = [] then withoutTrail cs else cs ++ withoutTrail ds := by
  simp only [withoutTrail, List.reverse_append, List.dropWhile_append, List.reverse_eq_nil_iff,
    List.isEmpty_iff]
  split
  · rfl
  · rw [List.reverse_append, List.reverse_reverse]

/-- More text behind a front takes none of its ink away. -/
theorem withoutTrail_append_isPrefix (front behind : List Char) :
    withoutTrail front <+: withoutTrail (front ++ behind) := by
  rw [withoutTrail_append]
  split
  · exact List.prefix_refl _
  · exact (withoutTrail_isPrefix front).trans (List.prefix_append _ _)

/-- A front takes no more cells than the whole. -/
theorem cells_le_of_isPrefix {front cs : List Char} (h : front <+: cs) : cells front ≤ cells cs := by
  obtain ⟨behind, rfl⟩ := h
  rw [cells_append]
  exact Nat.le_add_right _ _

end Trail

/-- A piece that has its place in a line of a width, the blanks at its end aside, unless it is a
single character that has none. -/
def Fits (width : Nat) (piece : List Char) : Prop :=
  cells (withoutTrail piece) ≤ width ∨ piece.length ≤ 1

/-- A piece that takes no more cells than there are has its place. -/
theorem fits_of_cells_le {width : Nat} {piece : List Char} (h : cells piece ≤ width) :
    Fits width piece :=
  .inl ((cells_le_of_isPrefix (withoutTrail_isPrefix piece)).trans h)

/-- The pieces that a word is chopped into have their places. -/
theorem fits_of_mem_chop (width : Nat) (cs : List Char) :
    ∀ piece ∈ chop width cs, Fits width piece := by
  have hchop : ∀ (cs : List Char) (used : Nat) (piece : List Char), used = cells piece →
      (used ≤ width ∨ piece.length ≤ 1) →
      ∀ found ∈ chopFrom width used piece.reverse cs, Fits width found := by
    intro cs
    induction cs with
    | nil =>
      intro used piece hused hfits
      rw [chopFrom, List.forall_mem_singleton, List.reverse_reverse]
      exact hfits.elim (fun h => fits_of_cells_le (hused ▸ h)) .inr
    | cons c rest ih =>
      intro used piece hused hfits
      rw [chopFrom]
      split
      · rw [List.reverse_reverse]
        have hfirst := hfits.elim (fun h => fits_of_cells_le (hused ▸ h)) .inr
        refine List.forall_mem_cons.mpr ⟨hfirst, ?_⟩
        exact ih (cellsOf c) [c] rfl (.inr (Nat.le_refl 1))
      · have hcons : c :: piece.reverse = (piece ++ [c]).reverse := by
          rw [List.reverse_append]
          rfl
        rw [hcons]
        refine ih _ (piece ++ [c]) ?_ (.inl (by omega))
        rw [cells_append, cells_cons, cells_nil, hused, Nat.add_zero]
  exact hchop cs 0 [] rfl (.inl (Nat.zero_le width))

/-- A word is chopped into at least one piece. -/
theorem chop_ne_nil (width : Nat) (cs : List Char) : chop width cs ≠ [] := by
  have hchop : ∀ (cs : List Char) (used : Nat) (piece : List Char),
      chopFrom width used piece cs ≠ [] := by
    intro cs
    induction cs with
    | nil => exact fun used piece => List.cons_ne_nil _ _
    | cons c rest ih =>
      intro used piece
      rw [chopFrom]
      split
      · exact List.cons_ne_nil _ _
      · exact ih _ _
  exact hchop cs 0 []

section Breaks

/-- The breaks before pieces in a row are those before the first ones and those before the
others. -/
theorem pieceBreaks_append (start : Nat) (pieces others : List (List Char)) :
    pieceBreaks start (pieces ++ others) =
      pieceBreaks start pieces ++ pieceBreaks (start + pieces.flatten.length) others := by
  induction pieces generalizing start with
  | nil => rfl
  | cons piece rest ih =>
    rw [List.cons_append, pieceBreaks, pieceBreaks, ih, List.append_assoc, List.flatten_cons,
      List.length_append, Nat.add_assoc]

/-- Dividing at the breaks before pieces gives the pieces, behind the start of the line. -/
theorem divide_pieceBreaks {start : Nat} {piece : List Char} (h : start + piece.length ≠ 0)
    (rest : List (List Char)) :
    divide start (piece ++ rest.flatten) (pieceBreaks (start + piece.length) rest) =
      piece :: rest := by
  induction rest generalizing start piece with
  | nil => rw [List.flatten_nil, List.append_nil, pieceBreaks, divide]
  | cons next rest ih =>
    rw [pieceBreaks, if_neg h, List.flatten_cons, List.singleton_append, divide,
      Nat.add_sub_cancel_left, List.take_left, List.drop_left]
    exact congrArg (piece :: ·) (ih (by omega))

/-- Dividing a line at the breaks before its pieces gives nothing but pieces of it. -/
theorem mem_of_mem_divide {piece : List Char} {rest : List (List Char)} {found : List Char}
    (h : found ∈ divide 0 (piece ++ rest.flatten) (pieceBreaks 0 (piece :: rest))) :
    found ∈ piece :: rest := by
  -- There is no break at the start of a line, so empty pieces there are no pieces at all.
  induction rest generalizing piece with
  | nil =>
    rw [pieceBreaks, if_pos rfl, pieceBreaks, List.flatten_nil, List.append_nil] at h
    exact h
  | cons next rest ih =>
    rw [pieceBreaks, if_pos rfl, List.nil_append] at h
    by_cases hpiece : piece = []
    · subst hpiece
      exact List.mem_cons_of_mem _ (ih h)
    · rwa [divide_pieceBreaks (by simpa using hpiece)] at h

end Breaks

/-- A layout has divided what it was given into pieces that have their places, and is filling
the line of the last one. -/
structure Layout.Divides (width : Nat) (l : Layout) (pieces : List (List Char)) : Prop where
  breaks : l.breaks = pieceBreaks 0 pieces
  used : ∃ done last, pieces = done ++ [last] ∧ l.used = cells last
  fits : ∀ piece ∈ pieces, Fits width piece

/-- Laying out one more word divides what there is with the word behind it. -/
theorem Layout.Divides.place {width : Nat} {l : Layout} {pieces : List (List Char)}
    (h : l.Divides width pieces) {w : Word} (hstart : w.start = pieces.flatten.length) :
    ∃ more, (l.place width .fold w).Divides width more ∧
      more.flatten = pieces.flatten ++ w.chars := by
  obtain ⟨hbreaks, ⟨done, last, rfl, hused⟩, hfits⟩ := h
  have hdone : ∀ piece ∈ done, Fits width piece := fun piece hpiece =>
    hfits piece (List.mem_append_left _ hpiece)
  unfold Layout.place
  dsimp only
  split
  · -- The word joins the last piece, whose start stays where it is.
    rename_i hroom
    refine ⟨done ++ [last ++ w.chars], ⟨?_, ⟨done, _, rfl, ?_⟩, ?_⟩, ?_⟩
    · rw [hbreaks, pieceBreaks_append, pieceBreaks_append]
      rfl
    · rw [cells_append, hused]
    · refine List.forall_mem_append.mpr ⟨hdone, List.forall_mem_singleton.mpr (.inl ?_)⟩
      rw [withoutTrail_append]
      split
      · exact (cells_le_of_isPrefix (withoutTrail_isPrefix last)).trans (by omega)
      · rw [cells_append]
        omega
    · simp
  · rename_i hroom
    split
    · -- A word that is too long for any line goes on in pieces of its own.
      refine ⟨(done ++ [last]) ++ chop width w.chars, ⟨?_, ?_, ?_⟩, ?_⟩
      · rw [hbreaks, pieceBreaks_append 0 (done ++ [last]), Nat.zero_add, hstart]
      · obtain ⟨front, final, hchop⟩ := (List.eq_nil_or_concat _).resolve_left
          (chop_ne_nil width w.chars)
        rw [List.concat_eq_append] at hchop
        refine ⟨(done ++ [last]) ++ front, final, ?_, ?_⟩
        · rw [hchop, List.append_assoc _ front]
        · rw [hchop, List.getLastD_concat]
      · exact List.forall_mem_append.mpr ⟨hfits, fits_of_mem_chop width w.chars⟩
      · rw [List.flatten_append, flatten_chop]
    · rename_i hlong
      split
      · -- A word at the start of a line has all its room there.
        rename_i hempty
        simp only [Bool.or_eq_true, decide_eq_true_eq] at hempty
        rcases hempty with hempty | hempty
        · omega
        · rw [hempty, List.flatten_append, List.flatten_singleton, List.length_append] at hstart
          have hlast : last = [] := List.length_eq_zero_iff.mp (by omega)
          rw [hlast, cells_nil] at hused
          omega
      · rename_i hempty
        simp only [Bool.or_eq_true, decide_eq_true_eq, not_or] at hempty
        refine ⟨(done ++ [last]) ++ [w.chars], ⟨?_, ⟨_, _, rfl, rfl⟩, ?_⟩, ?_⟩
        · rw [pieceBreaks_append, ← hbreaks, Nat.zero_add, ← hstart, pieceBreaks, if_neg hempty.2]
          rfl
        · exact List.forall_mem_append.mpr
            ⟨hfits, List.forall_mem_singleton.mpr (.inl (Nat.le_of_not_lt hlong))⟩
        · rw [List.flatten_append, List.flatten_singleton]

/-- Words that stand in a row from a position on. -/
def Consecutive (start : Nat) : List Word → Prop
  | [] => True
  | w :: rest => w.start = start ∧ Consecutive (start + w.chars.length) rest

/-- The words of a line stand in a row. -/
theorem consecutive_wordsFrom (start : Nat) (cs : List Char) (fuel : Nat) :
    Consecutive start (wordsFrom start cs fuel) := by
  induction fuel generalizing start cs with
  | zero => trivial
  | succ fuel ih =>
    rw [wordsFrom]
    dsimp only
    split
    · trivial
    · exact ⟨rfl, ih _ _⟩

/-- A line of blanks has no words. -/
theorem wordsFrom_of_blank {cs : List Char} (h : ∀ c ∈ cs, Text.isBlank c = true)
    (start fuel : Nat) : wordsFrom start cs fuel = [] := by
  cases fuel with
  | zero => rfl
  | succ fuel =>
    have hrest : cs.dropWhile Text.isBlank = [] := List.dropWhile_eq_nil_iff.mpr h
    simp only [wordsFrom, hrest, List.isEmpty_nil, if_true]

/-- The words of a line that has ink are all of it. -/
theorem flatMap_wordsFrom {start : Nat} {cs : List Char} {fuel : Nat} (hfuel : cs.length ≤ fuel)
    (hink : ¬∀ c ∈ cs, Text.isBlank c = true) :
    (wordsFrom start cs fuel).flatMap Word.chars = cs := by
  induction fuel generalizing start cs with
  | zero =>
    rw [List.length_eq_zero_iff.mp (Nat.le_zero.mp hfuel)] at hink
    exact absurd (List.forall_mem_nil _) hink
  | succ fuel ih =>
    have hrest : cs.dropWhile Text.isBlank ≠ [] := mt List.dropWhile_eq_nil_iff.mp hink
    obtain ⟨c, behind, hcons⟩ := List.exists_cons_of_ne_nil hrest
    have hc : Text.isBlank c = false :=
      Text.drop_of_head?_dropWhile (by rw [hcons, List.head?_cons])
    have hone : (!Text.isBlank c) = true := by rw [hc]; rfl
    -- What is left of a line behind a word is empty or starts with ink again.
    obtain ⟨tail, htail⟩ : ∃ tail, behind.dropWhile (fun c => !Text.isBlank c) = tail := ⟨_, rfl⟩
    have hlater : ∀ start, (wordsFrom start (tail.dropWhile Text.isBlank) fuel).flatMap Word.chars =
        tail.dropWhile Text.isBlank := by
      intro start
      by_cases hempty : tail.dropWhile Text.isBlank = []
      · rw [hempty, wordsFrom_of_blank (List.forall_mem_nil _), List.flatMap_nil]
      · refine ih ?_ fun hblank => ?_
        · have hle := ((List.dropWhile_sublist Text.isBlank (l := tail)).trans
            (htail ▸ List.dropWhile_sublist _)).length_le
          have hlt := (List.dropWhile_sublist Text.isBlank (l := cs)).length_le
          rw [hcons, List.length_cons] at hlt
          omega
        · obtain ⟨d, more, hmore⟩ := List.exists_cons_of_ne_nil hempty
          have hd : Text.isBlank d = false :=
            Text.drop_of_head?_dropWhile (by rw [hmore, List.head?_cons])
          rw [hmore] at hblank
          cases hd.symm.trans (hblank d List.mem_cons_self)
    have hempty : (c :: behind).isEmpty = false := rfl
    simp only [wordsFrom, hcons, hempty, Bool.false_eq_true, if_false, List.flatMap_cons]
    rw [List.dropWhile_cons_of_pos (p := fun d => !Text.isBlank d) hone,
      List.takeWhile_cons_of_pos (p := fun d => !Text.isBlank d) hone, htail, hlater]
    calc _ = cs.takeWhile Text.isBlank ++ (c :: (behind.takeWhile (fun c => !Text.isBlank c) ++
          (tail.takeWhile Text.isBlank ++ tail.dropWhile Text.isBlank))) := by
            simp only [List.append_assoc, List.cons_append]
      _ = cs.takeWhile Text.isBlank ++ (c :: behind) := by
            rw [List.takeWhile_append_dropWhile, ← htail, List.takeWhile_append_dropWhile]
      _ = cs := by rw [← hcons, List.takeWhile_append_dropWhile]

/-- Laying out words in a row divides them. -/
theorem Layout.Divides.foldl {width : Nat} {ws : List Word} {l : Layout}
    {pieces : List (List Char)} (h : l.Divides width pieces)
    (hws : Consecutive pieces.flatten.length ws) :
    ∃ more, (ws.foldl (Layout.place width .fold) l).Divides width more ∧
      more.flatten = pieces.flatten ++ ws.flatMap Word.chars := by
  induction ws generalizing l pieces with
  | nil => exact ⟨pieces, h, (List.append_nil _).symm⟩
  | cons w rest ih =>
    obtain ⟨more, hmore, hflatten⟩ := h.place hws.1
    obtain ⟨final, hfinal, hflatten'⟩ := ih hmore (by
      rw [hflatten, List.length_append]
      exact hws.2)
    exact ⟨final, hfinal, by rw [hflatten', hflatten, List.append_assoc, List.flatMap_cons]⟩

/-- The pieces that a line is divided into have their places. -/
theorem fits_of_mem_divide (width : Nat) (cs : List Char) :
    ∀ piece ∈ divide 0 cs (breaks width .fold cs), Fits width piece := by
  intro piece hpiece
  by_cases hblank : ∀ c ∈ cs, Text.isBlank c = true
  · have hbreaks : breaks width .fold cs = [] := by
      rw [breaks, words, wordsFrom_of_blank hblank]
      rfl
    have htrail : withoutTrail cs = [] := List.rdropWhile_eq_nil_iff.mpr hblank
    rw [hbreaks, divide, List.mem_singleton] at hpiece
    rw [hpiece, Fits, htrail]
    exact .inl (Nat.zero_le width)
  · have hstart : (⟨0, []⟩ : Layout).Divides width [[]] :=
      ⟨rfl, ⟨[], [], rfl, rfl⟩, List.forall_mem_singleton.mpr (.inl (Nat.zero_le width))⟩
    obtain ⟨more, ⟨hbreaks, ⟨done, last, hmore, -⟩, hfits⟩, hflatten⟩ :=
      hstart.foldl (consecutive_wordsFrom 0 cs cs.length)
    rw [flatMap_wordsFrom (Nat.le_refl _) hblank] at hflatten
    obtain ⟨first, others, rfl⟩ : ∃ first others, more = first :: others :=
      List.exists_cons_of_ne_nil (by rw [hmore]; exact List.concat_ne_nil _ _)
    refine hfits piece (mem_of_mem_divide ?_)
    rw [← List.flatten_cons, hflatten]
    rw [← hbreaks]
    exact hpiece

section Pieces

variable {width : Nat} {piece front behind : List Char}

/-- A piece as it is printed: without the blanks that hang over, and cut to the width. -/
def printedPiece (width : Nat) (piece : List Char) : List Char :=
  truncate width .fold (cropTrail width piece)

/-- What hangs over is taken off behind the ink. -/
theorem withoutTrail_prefix_cropTrail (width : Nat) (piece : List Char) :
    withoutTrail piece <+: cropTrail width piece := by
  have hlength := (withoutTrail_isPrefix piece).length_le
  refine List.prefix_take_iff.mpr ⟨withoutTrail_isPrefix piece, ?_⟩
  omega

/-- Ink at the front of a piece that has its place is printed, where it takes one cell a
character. -/
theorem ink_prefix_printedPiece (hwidth : 0 < width) (hsingle : ∀ c ∈ front, cellsOf c = 1)
    (hfits : Fits width (front ++ behind)) :
    ink front <+: ink (printedPiece width (front ++ behind)) := by
  have hkept := withoutTrail_append_isPrefix front behind
  have hcells : cells (withoutTrail front) = (withoutTrail front).length :=
    cells_of_single fun c hc => hsingle c ((withoutTrail_isPrefix front).subset hc)
  have hroom : (withoutTrail front).length ≤ width := by
    rcases hfits with hfits | hfits
    · have hle := cells_le_of_isPrefix hkept
      omega
    · have hle := (withoutTrail_isPrefix front).length_le
      rw [List.length_append] at hfits
      omega
  rw [← ink_withoutTrail front]
  exact ink_isPrefix (prefix_truncate hwidth
    (fun c hc => hsingle c ((withoutTrail_isPrefix front).subset hc)) hroom
    (hkept.trans (withoutTrail_prefix_cropTrail width _)))

/-- Cutting a line adds no ink. -/
theorem ink_truncate_isPrefix (width : Nat) (cs : List Char) :
    ink (truncate width .fold cs) <+: ink cs := by
  unfold truncate
  split
  · exact List.prefix_refl _
  · rename_i hlong
    by_cases hwidth : 0 < width
    · obtain ⟨n, ⟨hcut, -⟩ | ⟨hcut, -⟩⟩ := isCut_fit hwidth (Nat.lt_of_not_le hlong)
      · rw [hcut]
        exact ink_isPrefix (List.take_prefix n cs)
      · have hspace : ink [' '] = [] := rfl
        rw [hcut, ink_append, hspace, List.append_nil]
        exact ink_isPrefix (List.take_prefix n cs)
    · obtain rfl : width = 0 := by omega
      exact List.nil_prefix

/-- A piece of single cells that has its place is printed with all its ink and no more. -/
theorem ink_printedPiece (hwidth : 0 < width) (hsingle : ∀ c ∈ piece, cellsOf c = 1)
    (hfits : Fits width piece) : ink (printedPiece width piece) = ink piece := by
  have hall : ink piece <+: ink (printedPiece width piece) := by
    have h := @ink_prefix_printedPiece width piece [] hwidth hsingle
    rw [List.append_nil] at h
    exact h hfits
  have hmore : ink (printedPiece width piece) <+: ink piece :=
    (ink_truncate_isPrefix width _).trans (ink_isPrefix (List.take_prefix _ piece))
  exact hmore.eq_of_length_le hall.length_le

/-- Ink at the front of pieces that have their places is printed at the front. -/
theorem ink_prefix_printedPieces (hwidth : 0 < width) {pieces : List (List Char)}
    (hfits : ∀ piece ∈ pieces, Fits width piece) (hsingle : ∀ c ∈ front, cellsOf c = 1)
    (hflatten : pieces.flatten = front ++ behind) :
    ink front <+: ink (pieces.flatMap fun piece => printedPiece width piece ++ ['\n']) := by
  induction pieces generalizing front with
  | nil =>
    have hfront : front = [] := (List.append_eq_nil_iff.mp hflatten.symm).1
    rw [hfront]
    exact List.nil_prefix
  | cons piece rest ih =>
    obtain ⟨hpiece, hrest⟩ := List.forall_mem_cons.mp hfits
    rw [List.flatMap_cons, ink_append]
    rw [List.flatten_cons] at hflatten
    rcases List.append_eq_append_iff.mp hflatten with ⟨later, hfront, hlater⟩ | ⟨more, hmore, -⟩
    · -- The whole piece belongs to the front.
      subst hfront
      have hmark : ink ['\n'] = [] := rfl
      rw [ink_append, ink_append, hmark, List.append_nil, ink_printedPiece hwidth
        (fun c hc => hsingle c (List.mem_append_left _ hc)) hpiece, List.prefix_append_right_inj]
      exact ih hrest (fun c hc => hsingle c (List.mem_append_right _ hc)) hlater
    · -- The front ends inside the piece.
      subst hmore
      refine (ink_prefix_printedPiece hwidth hsingle hpiece).trans ?_
      rw [ink_append, List.append_assoc]
      exact List.prefix_append _ _

end Pieces

/-- A front without line marks stands at the front of the first line. -/
theorem lines_append {front : List Char} (hmark : '\n' ∉ front) (behind : List Char) :
    ∃ line rest, lines (front ++ behind) = (front ++ line) :: rest := by
  induction front with
  | nil =>
    cases behind with
    | nil => exact ⟨[], [], rfl⟩
    | cons c behind =>
      rw [List.nil_append, lines]
      split
      · exact ⟨[], _, rfl⟩
      · split
        · exact ⟨[c], [], rfl⟩
        · exact ⟨_, _, rfl⟩
  | cons c front ih =>
    rw [List.mem_cons, not_or] at hmark
    obtain ⟨line, rest, hlines⟩ := ih hmark.2
    refine ⟨line, rest, ?_⟩
    rw [List.cons_append, lines, if_neg (Ne.symm hmark.1), hlines]
    rfl

/-- A front without tabulation stays as it is. -/
theorem expandTabs_append {front : List Char} (htab : '\t' ∉ front) (used : Nat)
    (behind : List Char) : ∃ line, expandTabs used (front ++ behind) = front ++ line := by
  induction front generalizing used with
  | nil => exact ⟨_, rfl⟩
  | cons c front ih =>
    rw [List.mem_cons, not_or] at htab
    obtain ⟨line, hline⟩ := ih htab.2 (used + cellsOf c)
    refine ⟨line, ?_⟩
    rw [List.cons_append, expandTabs, if_neg (Ne.symm htab.1), hline]
    rfl

/-- The lines of a text as they are printed. -/
theorem printedLines_wrap (width : Nat) (cs : List Char) :
    printedLines width (wrap width .fold .unfilled cs) = (lines cs).flatMap fun line =>
      (divide 0 (expandTabs 0 line) (breaks width .fold (expandTabs 0 line))).flatMap fun piece =>
        printedPiece width piece ++ ['\n'] := by
  simp only [printedLines, wrap, justified, List.flatMap_assoc, List.flatMap_map,
    truncate_truncate, printedPiece]

/-- A text that starts with plain characters of one cell each is printed with their ink at the
front, on every console that has a column. -/
theorem ink_prefix_printedLines {width : Nat} (hwidth : 0 < width) {front : List Char}
    (hsingle : ∀ c ∈ front, cellsOf c = 1) (hmark : '\n' ∉ front) (htab : '\t' ∉ front)
    (behind : List Char) :
    ink front <+: ink (printedLines width (wrap width .fold .unfilled (front ++ behind))) := by
  obtain ⟨line, rest, hlines⟩ := lines_append hmark behind
  obtain ⟨expanded, hexpanded⟩ := expandTabs_append htab 0 line
  rw [printedLines_wrap, hlines, List.flatMap_cons, hexpanded, ink_append]
  exact (ink_prefix_printedPieces hwidth (fits_of_mem_divide width _) hsingle
    (flatten_divide 0 _ _)).trans (List.prefix_append _ _)

end InstanceLink.Console
