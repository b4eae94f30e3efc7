import InstanceLink.Console.Markup
import Mathlib.Data.List.TakeWhile

/-!
# Escaped texts

A text that was escaped has no tags left: behind any markup that closes what it opens it is
shown as plain text, so it can neither change a style nor make a text unreadable. Escaping
puts backslashes before tags only, and no bracket changes its place among the brackets.
-/

namespace InstanceLink.Console

/-- A character that stands between the brackets of a tag. -/
def isInside (c : Char) : Bool := c != ']' && c != '['

/-- A backslash. -/
def isSlash (c : Char) : Bool := c = '\\'

/-- The inside of a tag starts with a character of its own and reaches to the next bracket,
which must be a closing one. -/
theorem readTag?_cons (c : Char) (rest : List Char) :
    readTag? (c :: rest) =
      if startsTag c then
        match rest.dropWhile isInside with
        | ']' :: tail => some (c :: rest.takeWhile isInside, tail)
        | _ => none
      else none := rfl

/-- There is no tag where the next bracket is not a closing one. -/
theorem readTag?_cons_eq_none_iff {c : Char} {rest : List Char} :
    readTag? (c :: rest) = none ↔
      (startsTag c = true → (rest.dropWhile isInside).head? ≠ some ']') := by
  rw [readTag?_cons]
  by_cases hc : startsTag c = true
  · simp only [hc, if_true, forall_const]
    split
    next tail htail => simp [htail]
    next hother =>
      simp only [true_iff]
      intro hhead
      obtain ⟨tail, htail⟩ := List.head?_eq_some_iff.mp hhead
      exact hother tail htail
  · simp [hc]

/-- A tag that was read is read in front of every other text as well. -/
theorem readTag?_of_readTag? {cs body tail : List Char} (h : readTag? cs = some (body, tail)) :
    cs = body ++ ']' :: tail ∧ ∀ other, readTag? (body ++ ']' :: other) = some (body, other) := by
  cases cs with
  | nil => contradiction
  | cons c rest =>
    rw [readTag?_cons] at h
    split at h
    · rename_i hc
      split at h
      · rename_i found hfound
        cases h
        have hsplit : rest = rest.takeWhile isInside ++ ']' :: tail := by
          rw [← hfound, List.takeWhile_append_dropWhile]
        refine ⟨congrArg (c :: ·) hsplit, fun other => ?_⟩
        have hinside : ∀ d ∈ rest.takeWhile isInside, isInside d = true :=
          fun d hd => List.mem_takeWhile_imp hd
        have hclosed : isInside ']' = false := rfl
        rw [List.cons_append, readTag?_cons, if_pos hc, List.dropWhile_append_of_pos hinside,
          List.takeWhile_append_of_pos hinside, List.dropWhile_cons, hclosed, List.takeWhile_cons,
          hclosed]
        simp
      · contradiction
    · contradiction

/-- An escaped tag is read at its bracket, behind all backslashes. -/
theorem readEscapedTag?_eq (cs : List Char) :
    readEscapedTag? cs =
      match cs.dropWhile isSlash with
      | '[' :: tail => (readTag? tail).map fun (body, rest) =>
          ((cs.takeWhile isSlash).length, body, rest)
      | _ => none := rfl

/-- There is no tag where no bracket behind the backslashes opens one. -/
theorem readEscapedTag?_eq_none_iff {cs : List Char} :
    readEscapedTag? cs = none ↔
      ∀ tail, cs.dropWhile isSlash = '[' :: tail → readTag? tail = none := by
  rw [readEscapedTag?_eq]
  split
  next tail htail => simp [htail]
  next hother =>
    simp only [true_iff]
    intro tail htail
    exact absurd htail (hother tail)

/-- The inside of an escaped tag is read in front of every text. -/
theorem readTag?_of_readEscapedTag? {cs body tail : List Char} {slashes : Nat}
    (h : readEscapedTag? cs = some (slashes, body, tail)) (other : List Char) :
    readTag? (body ++ ']' :: other) = some (body, other) := by
  rw [readEscapedTag?_eq] at h
  split at h
  · obtain ⟨⟨body', tail'⟩, hread, hpair⟩ := Option.map_eq_some_iff.mp h
    cases hpair
    exact (readTag?_of_readTag? hread).2 other
  · contradiction

/-- What follows a tag is shorter than what it was read from. -/
theorem length_lt_of_readEscapedTag? {cs body tail : List Char} {slashes : Nat}
    (h : readEscapedTag? cs = some (slashes, body, tail)) : tail.length < cs.length := by
  rw [readEscapedTag?_eq] at h
  split at h
  · rename_i found hfound
    obtain ⟨⟨body', tail'⟩, hread, hpair⟩ := Option.map_eq_some_iff.mp h
    cases hpair
    have hlength : found.length < cs.length := by
      have hle := (List.dropWhile_sublist isSlash (l := cs)).length_le
      rw [hfound, List.length_cons] at hle
      omega
    rw [(readTag?_of_readTag? hread).1, List.length_append, List.length_cons] at hlength
    omega
  · contradiction

/-- A tag behind an odd number of backslashes is read so in front of every text. -/
theorem readEscapedTag?_replicate (slashes : Nat) {body : List Char} {rest : List Char}
    (h : readTag? (body ++ ']' :: rest) = some (body, rest)) :
    readEscapedTag? (List.replicate slashes '\\' ++ '[' :: (body ++ ']' :: rest)) =
      some (slashes, body, rest) := by
  have hslash : ∀ c ∈ List.replicate slashes '\\', isSlash c = true := by
    intro c hc
    rw [(List.mem_replicate.mp hc).2]
    rfl
  have hbracket : isSlash '[' = false := rfl
  rw [readEscapedTag?_eq, List.dropWhile_append_of_pos hslash, List.takeWhile_append_of_pos hslash,
    List.dropWhile_cons, hbracket, List.takeWhile_cons, hbracket]
  simp [h]

/-- The parts from a tag on. -/
theorem partsFrom_of_some {cs body tail : List Char} {slashes : Nat}
    (h : readEscapedTag? cs = some (slashes, body, tail)) (position : Nat) (plain : List Char)
    (fuel : Nat) :
    partsFrom position plain cs (fuel + 1) = pending plain ++ tagParts position slashes body ++
      partsFrom (position + (cs.length - tail.length)) [] tail fuel := by
  cases cs with
  | nil => contradiction
  | cons c rest => rw [partsFrom, h]

/-- The parts from a character on that opens no tag. -/
theorem partsFrom_of_none {c : Char} {rest : List Char} (h : readEscapedTag? (c :: rest) = none)
    (position : Nat) (plain : List Char) (fuel : Nat) :
    partsFrom position plain (c :: rest) (fuel + 1) =
      partsFrom (position + 1) (c :: plain) rest fuel := by
  rw [partsFrom, h]

/-- A text in which every tag is escaped. -/
inductive Literal : List Char → Prop where
  | nil : Literal []
  /-- A character at which no tag is read. -/
  | char {c : Char} {rest : List Char} :
      readEscapedTag? (c :: rest) = none → Literal rest → Literal (c :: rest)
  /-- A tag with an odd number of backslashes before it. -/
  | tag (pairs : Nat) {body rest : List Char} :
      readTag? (body ++ ']' :: rest) = some (body, rest) → Literal rest →
      Literal (List.replicate (2 * pairs + 1) '\\' ++ '[' :: (body ++ ']' :: rest))

/-- Whether a part is plain text. -/
def MarkupPart.isText : MarkupPart → Bool
  | .text _ => true
  | .tag _ _ _ => false

/-- What was read of plain text is plain text. -/
theorem isText_of_mem_pending {plain : List Char} : ∀ part ∈ pending plain, part.isText = true := by
  unfold pending
  split
  · nofun
  · exact List.forall_mem_singleton.mpr rfl

/-- A tag with an odd number of backslashes before it is plain text. -/
theorem isText_of_mem_tagParts {position pairs : Nat} {body : List Char} :
    ∀ part ∈ tagParts position (2 * pairs + 1) body, part.isText = true := by
  have hodd : (2 * pairs + 1) % 2 = 1 := by omega
  intro part hpart
  simp only [tagParts, hodd, if_true, List.mem_append, List.mem_singleton] at hpart
  rcases hpart with hpart | rfl
  · split at hpart
    · contradiction
    · rw [List.mem_singleton.mp hpart]
      rfl
  · rfl

/-- Where every tag is escaped, all parts are plain text. -/
theorem Literal.isText {cs : List Char} (h : Literal cs) (position : Nat) (plain : List Char)
    (fuel : Nat) : ∀ part ∈ partsFrom position plain cs fuel, part.isText = true := by
  induction h generalizing position plain fuel with
  | nil => cases fuel <;> exact isText_of_mem_pending
  | @char c rest hnone _ ih =>
    cases fuel with
    | zero => exact isText_of_mem_pending
    | succ fuel =>
      rw [partsFrom_of_none hnone]
      exact ih (position + 1) (c :: plain) fuel
  | @tag pairs body rest hread _ ih =>
    cases fuel with
    | zero => exact isText_of_mem_pending
    | succ fuel =>
      rw [partsFrom_of_some (readEscapedTag?_replicate (2 * pairs + 1) hread)]
      exact List.forall_mem_append.mpr ⟨List.forall_mem_append.mpr
        ⟨isText_of_mem_pending, isText_of_mem_tagParts⟩, ih _ _ _⟩

/-- Parts of plain text are shown, whatever styles are open. -/
theorem renderParts_of_isText {row : List MarkupPart} (h : ∀ part ∈ row, part.isText = true)
    (styles : List String) : ∃ shown, renderParts styles row = .ok shown := by
  induction row with
  | nil => exact ⟨[], rfl⟩
  | cons part rest ih =>
    obtain ⟨hpart, hrest⟩ := List.forall_mem_cons.mp h
    obtain ⟨later, hlater⟩ := ih hrest
    cases part with
    | text chars => exact ⟨shown chars ++ later, by rw [renderParts, hlater]; rfl⟩
    | tag position name parameters => contradiction

section Escape

/-- What may be put behind an escaped text: nothing, or a second backslash at its end. -/
def IsEnd (last : List Char) : Prop := last = [] ∨ last = ['\\']

variable {last : List Char}

/-- Escaping changes nothing at a character that opens no tag. -/
theorem escapeFrom_of_none {c : Char} {rest : List Char} (h : readEscapedTag? (c :: rest) = none)
    (fuel : Nat) : escapeFrom (c :: rest) (fuel + 1) = c :: escapeFrom rest fuel := by
  rw [escapeFrom, h]

/-- Escaping puts backslashes before a tag. -/
theorem escapeFrom_of_some {cs body tail : List Char} {slashes : Nat}
    (h : readEscapedTag? cs = some (slashes, body, tail)) (fuel : Nat) :
    escapeFrom cs (fuel + 1) = List.replicate (2 * slashes + 1) '\\' ++
      '[' :: (body ++ ']' :: escapeFrom tail fuel) := by
  cases cs with
  | nil => contradiction
  | cons c rest =>
    rw [escapeFrom, h]
    simp only [List.append_assoc, List.cons_append]

/-- Escaping a tag starts with a backslash. -/
theorem exists_escapeFrom_of_some {cs body tail : List Char} {slashes : Nat}
    (h : readEscapedTag? cs = some (slashes, body, tail)) (fuel : Nat) :
    ∃ rest, escapeFrom cs (fuel + 1) = '\\' :: rest := by
  rw [escapeFrom_of_some h, List.replicate_succ]
  exact ⟨_, rfl⟩

/-- Escaping brings no closing bracket forward. -/
theorem head?_dropWhile_escapeFrom (hlast : IsEnd last) {cs : List Char} {fuel : Nat}
    (hfuel : cs.length ≤ fuel) (h : (cs.dropWhile isInside).head? ≠ some ']') :
    ((escapeFrom cs fuel ++ last).dropWhile isInside).head? ≠ some ']' := by
  have hend : (last.dropWhile isInside).head? ≠ some ']' := by
    rcases hlast with rfl | rfl <;> decide
  induction fuel generalizing cs with
  | zero =>
    rw [List.length_eq_zero_iff.mp (Nat.le_zero.mp hfuel)]
    exact hend
  | succ fuel ih =>
    cases cs with
    | nil => exact hend
    | cons c rest =>
      cases htag : readEscapedTag? (c :: rest) with
      | none =>
        rw [escapeFrom_of_none htag, List.cons_append]
        by_cases hinside : isInside c = true
        · rw [List.dropWhile_cons_of_pos hinside] at h ⊢
          exact ih (Nat.le_of_succ_le_succ hfuel) h
        · rw [List.dropWhile_cons_of_neg hinside] at h ⊢
          exact h
      | some found =>
        -- Behind the backslashes the next bracket is the opening one of the tag.
        have hslashes : ∀ c ∈ List.replicate (2 * found.1 + 1) '\\', isInside c = true := by
          intro c hc
          rw [(List.mem_replicate.mp hc).2]
          rfl
        have hbracket : isInside '[' = false := rfl
        rw [escapeFrom_of_some htag, List.append_assoc,
          List.dropWhile_append_of_pos hslashes, List.cons_append, List.dropWhile_cons, hbracket]
        simp

/-- Where no tag opens, none opens in the escaped text. -/
theorem readTag?_escapeFrom (hlast : IsEnd last) {cs : List Char} {fuel : Nat}
    (hfuel : cs.length ≤ fuel) (h : readTag? cs = none) :
    readTag? (escapeFrom cs fuel ++ last) = none := by
  have hend : readTag? last = none := by
    rcases hlast with rfl | rfl <;> rfl
  cases cs with
  | nil => cases fuel <;> exact hend
  | cons c rest =>
    obtain ⟨fuel, rfl⟩ : ∃ n, fuel = n + 1 := Nat.exists_eq_add_one.mpr (by simp at hfuel; omega)
    cases htag : readEscapedTag? (c :: rest) with
    | none =>
      rw [escapeFrom_of_none htag, List.cons_append, readTag?_cons_eq_none_iff]
      intro hc
      exact head?_dropWhile_escapeFrom hlast (Nat.le_of_succ_le_succ hfuel)
        (readTag?_cons_eq_none_iff.mp h hc)
    | some found =>
      obtain ⟨behind, hbehind⟩ := exists_escapeFrom_of_some htag fuel
      rw [hbehind]
      rfl

/-- A backslash changes nothing for what stands behind it. -/
theorem readEscapedTag?_slash_eq_none_iff {rest : List Char} :
    readEscapedTag? ('\\' :: rest) = none ↔ readEscapedTag? rest = none := by
  have hslash : isSlash '\\' = true := rfl
  rw [readEscapedTag?_eq_none_iff, readEscapedTag?_eq_none_iff, List.dropWhile_cons_of_pos hslash]

/-- Where no tag is read, none is read in the escaped text. -/
theorem readEscapedTag?_escapeFrom (hlast : IsEnd last) {cs : List Char} {fuel : Nat}
    (hfuel : cs.length ≤ fuel) (h : readEscapedTag? cs = none) :
    readEscapedTag? (escapeFrom cs fuel ++ last) = none := by
  have hend : readEscapedTag? last = none := by
    rcases hlast with rfl | rfl <;> rfl
  induction fuel generalizing cs with
  | zero =>
    rw [List.length_eq_zero_iff.mp (Nat.le_zero.mp hfuel)]
    exact hend
  | succ fuel ih =>
    cases cs with
    | nil => exact hend
    | cons c rest =>
      have hrest : rest.length ≤ fuel := Nat.le_of_succ_le_succ hfuel
      rw [escapeFrom_of_none h, List.cons_append]
      by_cases hslash : isSlash c = true
      · obtain rfl : c = '\\' := of_decide_eq_true hslash
        rw [readEscapedTag?_slash_eq_none_iff] at h ⊢
        exact ih hrest h
      · rw [readEscapedTag?_eq_none_iff, List.dropWhile_cons_of_neg hslash] at h ⊢
        intro tail htail
        cases htail
        exact readTag?_escapeFrom hlast hrest (h rest rfl)

/-- Every tag of an escaped text is escaped. -/
theorem literal_escapeFrom (hlast : IsEnd last) {cs : List Char} {fuel : Nat}
    (hfuel : cs.length ≤ fuel) : Literal (escapeFrom cs fuel ++ last) := by
  have hend : Literal last := by
    rcases hlast with rfl | rfl
    · exact .nil
    · exact .char rfl .nil
  induction fuel generalizing cs with
  | zero =>
    rw [List.length_eq_zero_iff.mp (Nat.le_zero.mp hfuel)]
    exact hend
  | succ fuel ih =>
    cases cs with
    | nil => exact hend
    | cons c rest =>
      cases htag : readEscapedTag? (c :: rest) with
      | none =>
        have hescaped := readEscapedTag?_escapeFrom hlast hfuel htag
        rw [escapeFrom_of_none htag] at hescaped ⊢
        exact .char hescaped (ih (Nat.le_of_succ_le_succ hfuel))
      | some found =>
        obtain ⟨slashes, body, tail⟩ := found
        have htail : tail.length ≤ fuel := by
          have hlt := length_lt_of_readEscapedTag? htag
          omega
        rw [escapeFrom_of_some htag]
        simp only [List.append_assoc, List.cons_append]
        exact .tag slashes (readTag?_of_readEscapedTag? htag _) (ih htail)

/-- Guarding the end of a text puts at most a backslash behind it. -/
theorem exists_guardEnd (cs : List Char) : ∃ last, IsEnd last ∧ guardEnd cs = cs ++ last := by
  unfold guardEnd
  split
  · rename_i hone
    have hcs : cs = ['\\'] := by rw [← List.reverse_reverse cs, hone]; rfl
    exact ⟨['\\'], .inr rfl, by rw [hcs]; rfl⟩
  · split
    · exact ⟨[], .inl rfl, (List.append_nil cs).symm⟩
    · exact ⟨['\\'], .inr rfl, rfl⟩
  · exact ⟨[], .inl rfl, (List.append_nil cs).symm⟩

/-- Every tag of an escaped text is escaped. -/
theorem literal_escape (cs : List Char) : Literal (escape cs) := by
  obtain ⟨last, hlast, hguard⟩ := exists_guardEnd (escapeFrom cs cs.length)
  rw [escape, hguard]
  exact literal_escapeFrom hlast (Nat.le_refl _)

end Escape

section Styled

variable {text : List Char}

/-- A text without brackets and backslashes is read as plain text. -/
theorem partsFrom_append (htext : ∀ c ∈ text, c ≠ '[' ∧ c ≠ '\\') (position : Nat)
    (plain rest : List Char) (fuel : Nat) :
    partsFrom position plain (text ++ rest) (fuel + text.length) =
      partsFrom (position + text.length) (text.reverse ++ plain) rest fuel := by
  induction text generalizing position plain with
  | nil => rfl
  | cons c text ih =>
    obtain ⟨⟨hbracket, hslash⟩, hrest⟩ := List.forall_mem_cons.mp htext
    have hnone : readEscapedTag? (c :: (text ++ rest)) = none := by
      have hc : isSlash c = false := decide_eq_false hslash
      rw [readEscapedTag?_eq_none_iff, List.dropWhile_cons, hc]
      intro tail htail
      simp only [Bool.false_eq_true, if_false, List.cons.injEq] at htail
      exact absurd htail.1 hbracket
    rw [List.cons_append, List.length_cons, ← Nat.add_assoc, partsFrom_of_none hnone,
      ih hrest (position + 1) (c :: plain), Nat.add_right_comm, List.reverse_cons,
      List.append_assoc]
    rfl

/-- A tag without backslashes is a tag. -/
theorem tagParts_zero {name : List Char} (hname : '=' ∉ name) (position : Nat) :
    tagParts position 0 name = [.tag position name none] := by
  have hequals : ∀ c ∈ name, (c != '=') = true := by
    intro c hc
    exact bne_iff_ne.mpr fun heq => hname (heq ▸ hc)
  have hsplit : splitTag name = (name, none) := by
    rw [splitTag, List.takeWhile_eq_self_iff.mpr hequals, List.dropWhile_eq_nil_iff.mpr hequals]
  simp only [tagParts, hsplit]
  rfl

/-- What the name of a style may be, to stand in a tag and in the one that closes it. -/
structure IsStyle (name : List Char) : Prop where
  opens : ∀ tail, readTag? (name ++ ']' :: tail) = some (name, tail)
  closes : ∀ tail, readTag? ('/' :: (name ++ ']' :: tail)) = some ('/' :: name, tail)
  plain : name.head? ≠ some '/'
  trimmed : Text.trimBy Text.isBlank name = name
  unassigned : '=' ∉ name

variable {name : List Char}

/-- A text in a style is shown as it is, and leaves no style open. -/
theorem IsStyle.renderParts (h : IsStyle name) (position after : Nat) (later : List MarkupPart) :
    Console.renderParts [] (.tag position name none :: .text text ::
      .tag after ('/' :: name) none :: later) =
        (Console.renderParts [] later).map (shown text ++ ·) := by
  have hopen : applyTag [] position name none = .ok [styleName (String.ofList name)] := by
    unfold applyTag
    split
    · exact absurd rfl h.plain
    · rfl
  have hclose : applyTag [styleName (String.ofList name)] after ('/' :: name) none = .ok [] := by
    simp only [applyTag, h.trimmed, close?, List.contains_cons, beq_self_eq_true, Bool.true_or,
      if_true, List.erase_cons_head, ite_self]
  rw [Console.renderParts, hopen]
  change (Console.renderParts _ (.tag after _ none :: later)).map _ = _
  rw [Console.renderParts, hclose]
  rfl

/-- Characters read so far are a part, in the order they were read. -/
theorem pending_of_ne_nil {plain : List Char} (h : plain ≠ []) :
    pending plain = [.text plain.reverse] := by
  rw [pending, List.isEmpty_eq_false_iff.mpr h]
  rfl

/-- What was read of plain text stands at the front of the first part. -/
theorem exists_partsFrom_eq_cons {plain : List Char} (h : plain ≠ []) (position : Nat)
    (cs : List Char) (fuel : Nat) :
    ∃ more later, partsFrom position plain cs fuel = .text (plain.reverse ++ more) :: later := by
  induction fuel generalizing position plain cs with
  | zero => exact ⟨[], [], by rw [partsFrom, pending_of_ne_nil h, List.append_nil]⟩
  | succ fuel ih =>
    cases cs with
    | nil => exact ⟨[], [], by rw [partsFrom, pending_of_ne_nil h, List.append_nil]⟩
    | cons c rest =>
      cases hread : readEscapedTag? (c :: rest) with
      | none =>
        obtain ⟨more, later, hparts⟩ := ih (List.cons_ne_nil c plain) (position + 1) rest
        refine ⟨c :: more, later, ?_⟩
        rw [partsFrom_of_none hread, hparts, List.reverse_cons, List.append_assoc]
        rfl
      | some found =>
        rw [partsFrom_of_some hread, pending_of_ne_nil h]
        exact ⟨[], _, by rw [List.append_nil]; rfl⟩

/-- A space at the front of a part of plain text is shown. -/
theorem shown_space (cs : List Char) : shown (' ' :: cs) = ' ' :: shown cs := by
  have hunescape : unescapeBrackets (' ' :: cs) = ' ' :: unescapeBrackets cs := by
    rw [unescapeBrackets]
    nofun
  rw [shown, hunescape]
  rfl

/-- Markup that puts a text in a style and goes on behind a space with a text whose tags are all
escaped shows the first text, the space and then something. -/
theorem IsStyle.render (h : IsStyle name) (htext : ∀ c ∈ text, c ≠ '[' ∧ c ≠ '\\')
    (hnonempty : text ≠ []) {rest : List Char} (hrest : Literal rest) :
    ∃ behind, Console.render ('[' :: (name ++ ']' :: (text ++ '[' :: '/' ::
      (name ++ ']' :: ' ' :: rest)))) = .ok (shown text ++ ' ' :: behind) := by
  have hopen : readEscapedTag? ('[' :: (name ++ ']' :: (text ++ '[' :: '/' ::
      (name ++ ']' :: ' ' :: rest)))) =
        some (0, name, text ++ '[' :: '/' :: (name ++ ']' :: ' ' :: rest)) :=
    readEscapedTag?_replicate 0 (h.opens _)
  have hclose : readEscapedTag? ('[' :: '/' :: (name ++ ']' :: ' ' :: rest)) =
      some (0, '/' :: name, ' ' :: rest) :=
    @readEscapedTag?_replicate 0 ('/' :: name) (' ' :: rest) (h.closes _)
  have hequals : '=' ∉ '/' :: name := by
    rw [List.mem_cons, not_or]
    exact ⟨by decide, h.unassigned⟩
  -- The fuel is more than enough for the two tags, the text between them and the space.
  obtain ⟨fuel, hfuel⟩ : ∃ fuel, ('[' :: (name ++ ']' :: (text ++ '[' :: '/' ::
      (name ++ ']' :: ' ' :: rest)))).length + 1 = fuel + 1 + 1 + text.length + 1 :=
    ⟨name.length + (name.length + rest.length) + 4, by simp; omega⟩
  have hpending : pending (text.reverse ++ []) = [.text text] := by
    rw [List.append_nil, pending_of_ne_nil (mt List.reverse_eq_nil_iff.mp hnonempty),
      List.reverse_reverse]
  obtain ⟨after, position, hparts⟩ : ∃ after position,
      parts ('[' :: (name ++ ']' :: (text ++ '[' :: '/' :: (name ++ ']' :: ' ' :: rest)))) =
        .tag 0 name none :: .text text :: .tag after ('/' :: name) none ::
          partsFrom position [' '] rest fuel := by
    rw [parts, hfuel, partsFrom_of_some hopen, partsFrom_append htext, partsFrom_of_some hclose,
      tagParts_zero h.unassigned, tagParts_zero hequals, hpending, partsFrom_of_none rfl]
    exact ⟨_, _, rfl⟩
  obtain ⟨more, later, hfirst⟩ :=
    exists_partsFrom_eq_cons (List.cons_ne_nil ' ' []) position rest fuel
  have hplain := hrest.isText position [' '] fuel
  rw [hfirst] at hplain
  obtain ⟨behind, hbehind⟩ :=
    renderParts_of_isText (List.forall_mem_cons.mp hplain).2 []
  have hlater : Console.renderParts [] (.text ([' '].reverse ++ more) :: later) =
      .ok (' ' :: (shown more ++ behind)) := by
    rw [Console.renderParts, hbehind, List.reverse_singleton, List.singleton_append, shown_space]
    rfl
  refine ⟨shown more ++ behind, ?_⟩
  rw [Console.render, hparts, hfirst, h.renderParts, hlater]
  rfl

end Styled

end InstanceLink.Console
