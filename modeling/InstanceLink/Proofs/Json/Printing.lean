import InstanceLink.Json.Printer
import InstanceLink.Proofs.Json.Grammar
import InstanceLink.Proofs.Number.Writing
import Mathlib.Algebra.Group.Nat.Defs
import Mathlib.Tactic.SplitIfs

/-!
# Printing and reading JSON

Both layouts are writings of the value they print, so both are read back as that value: no
character of a text is lost or changed on the way, however it is escaped. This holds of every
value without decimal numbers.
-/

namespace InstanceLink

namespace Text

/-- Each digit has its value. -/
theorem hexValue?_hexDigit : ∀ n < 16, hexValue? (hexDigit n) = some n := by decide

/-- A number of fixed width is read back, if it fits. -/
theorem readHex?_hexPadded {width n : Nat} (hwidth : width ≠ 0) (h : n < 16 ^ width) :
    readHex? (hexPadded width n) = some n := by
  have hfold : ∀ {width n}, n < 16 ^ width → (hexPadded width n).foldl
      (fun acc c => acc.bind fun n => (hexValue? c).map (16 * n + ·)) (some 0) = some n := by
    intro width
    induction width with
    | zero =>
      intro n hn
      have hzero : n = 0 := by simpa using hn
      subst hzero
      rfl
    | succ width ih =>
      intro n hn
      have hfront : n / 16 < 16 ^ width := by
        rw [Nat.pow_succ] at hn
        exact Nat.div_lt_of_lt_mul (by omega)
      have hlast := hexValue?_hexDigit (n % 16) (Nat.mod_lt _ (by decide))
      simp only [hexPadded, List.foldl_append, ih hfront, List.foldl_cons, List.foldl_nil,
        Option.bind_some, hlast, Option.map_some, Nat.div_add_mod]
  have hsome : (hexPadded width n).isEmpty = false := by
    rw [List.isEmpty_eq_false_iff, ← List.length_pos_iff, hexPadded_length]
    exact Nat.pos_of_ne_zero hwidth
  rw [readHex?, hsome, if_neg Bool.false_ne_true, hfold h]

end Text

namespace Json

/-! ## Texts and numbers -/

/-- A unit is written with its four digits. -/
theorem readHex?_unit {n : Nat} (h : n < 0x10000) :
    Text.readHex? (Text.hexPadded 4 n) = some n :=
  Text.readHex?_hexPadded (by decide) h

/-- The escape of a character by its units spells it. -/
theorem spells_unitEscape (c : Char) : Spells c (unitEscape c.toNat) := by
  have hrange := toNat_range c
  unfold unitEscape
  dsimp only
  split
  · rename_i hsmall
    exact .unit (Text.hexPadded_length _ _) (readHex?_unit hsmall)
  · rename_i hlarge
    have hmod := Nat.mod_lt (c.toNat - 0x10000) (Nat.zero_lt_succ 0x3ff)
    exact .pair (by omega) (Text.hexPadded_length _ _) (Text.hexPadded_length _ _)
      (readHex?_unit (by omega)) (readHex?_unit (by omega))

/-- A character of a text is spelled, whatever is kept. -/
theorem spells_textChar (keep : Char → Bool) (c : Char) : Spells c (textChar keep c) := by
  have hof : ∀ {n : Nat}, c.toNat = n → c = Char.ofNat n := by
    rintro n rfl
    rw [Char.ofNat_toNat]
  have hletter : ∀ {l c' : Char}, (l, c') ∈ shortEscapes → c = c' → Spells c ['\\', l] := by
    rintro l _ h rfl
    exact .letter h
  unfold textChar
  split_ifs with hquote hslash hline hreturn htab hback hfeed hkept
  · exact hletter (by decide) hquote
  · exact hletter (by decide) hslash
  · exact hletter (by decide) hline
  · exact hletter (by decide) hreturn
  · exact hletter (by decide) htab
  · exact hletter (by decide) (hof hback)
  · exact hletter (by decide) (hof hfeed)
  · exact spells_unitEscape c
  · simp only [Bool.or_eq_true, decide_eq_true_eq, not_or, not_lt] at hkept
    exact .itself hquote hslash hkept.1

/-- The characters of a text are spelled one after the other. -/
theorem spellsAll_flatMap (keep : Char → Bool) (cs : List Char) :
    SpellsAll cs (cs.flatMap (textChar keep)) := by
  induction cs with
  | nil => exact .nil
  | cons c cs ih => exact .cons (spells_textChar keep c) ih

/-- A text between its quotes is written. -/
theorem written_textChars (keep : Char → Bool) (s : String) :
    Written (.text s) (textChars keep s) := .text (spellsAll_flatMap keep s.toList)

/-- The digits of a number are a numeral. -/
theorem isNumeral_toDigits (n : Nat) : IsNumeral (Nat.toDigits 10 n) := by
  refine ⟨Nat.toDigits_ne_nil, fun _ => Number.isDigit_of_mem_toDigits, fun hzero => ?_⟩
  rw [Number.head?_toDigits hzero]
  rfl

/-- A whole number is written with its sign and digits. -/
theorem written_intChars (i : Int) : Written (.int i) (intChars i) := by
  have hdigits := isNumeral_toDigits i.natAbs
  unfold intChars
  split
  next hneg =>
    have hvalue : i = -(Number.digitsValue (Nat.toDigits 10 i.natAbs) : Int) := by
      rw [Number.digitsValue_toDigits]
      omega
    have hwritten := Written.negative hdigits
    rwa [← hvalue] at hwritten
  next hpos =>
    have hvalue : i = Number.digitsValue (Nat.toDigits 10 i.natAbs) := by
      rw [Number.digitsValue_toDigits]
      omega
    have hwritten := Written.int hdigits
    rwa [← hvalue] at hwritten

/-! ## Values -/

mutual

/-- Whether a value has no decimal numbers in it. -/
def isExact : Json → Bool
  | .decimal _ => false
  | .list items => itemsExact items
  | .object fields => fieldsExact fields
  | _ => true

/-- Whether no item has decimal numbers in it. -/
def itemsExact : List Json → Bool
  | [] => true
  | item :: rest => isExact item && itemsExact rest

/-- Whether no field has decimal numbers in it. -/
def fieldsExact : List (String × Json) → Bool
  | [] => true
  | (_, value) :: rest => isExact value && fieldsExact rest

end

mutual

/-- The single-line form of a value is a writing of it. -/
theorem written_lineChars : ∀ v : Json, v.isExact = true → Written v (lineChars v)
  | .null, _ => .null
  | .bool true, _ => .yes
  | .bool false, _ => .no
  | .int i, _ => written_intChars i
  | .text s, _ => written_textChars keepPlain s
  | .list [], _ => .emptyList isSpace_nil
  | .list (item :: rest), h => by
    rw [isExact] at h
    exact .list isSpace_nil (itemsWritten_lineItems (item :: rest) h (List.cons_ne_nil _ _))
  | .object [], _ => .emptyObject isSpace_nil
  | .object (field :: rest), h => by
    rw [isExact] at h
    exact .object isSpace_nil (fieldsWritten_lineFields (field :: rest) h (List.cons_ne_nil _ _))

/-- Items on a single line are written with commas between them. -/
theorem itemsWritten_lineItems : ∀ items : List Json, itemsExact items = true → items ≠ [] →
    ItemsWritten items (lineItems items)
  | [], _, hne => absurd rfl hne
  | [item], h, _ => by
    rw [itemsExact, Bool.and_eq_true] at h
    have hlast := ItemsWritten.last (written_lineChars item h.1) isSpace_nil
    rwa [List.append_nil] at hlast
  | item :: next :: rest, h, _ => by
    rw [itemsExact, Bool.and_eq_true] at h
    exact .more (written_lineChars item h.1) isSpace_nil isSpace_nil
      (itemsWritten_lineItems (next :: rest) h.2 (List.cons_ne_nil _ _))

/-- Fields on a single line are written with commas between them. -/
theorem fieldsWritten_lineFields : ∀ fields : List (String × Json), fieldsExact fields = true →
    fields ≠ [] → FieldsWritten fields (lineFields fields)
  | [], _, hne => absurd rfl hne
  | [(name, value)], h, _ => by
    rw [fieldsExact, Bool.and_eq_true] at h
    have hlast := FieldsWritten.last (spellsAll_flatMap keepPlain name.toList) isSpace_nil
      isSpace_nil (written_lineChars value h.1) isSpace_nil
    simpa [fieldText, lineFields, textChars] using hlast
  | (name, value) :: next :: rest, h, _ => by
    rw [fieldsExact, Bool.and_eq_true] at h
    have hmore := FieldsWritten.more (spellsAll_flatMap keepPlain name.toList) isSpace_nil
      isSpace_nil (written_lineChars value h.1) isSpace_nil isSpace_nil
      (fieldsWritten_lineFields (next :: rest) h.2 (List.cons_ne_nil _ _))
    simpa [fieldText, lineFields, textChars] using hmore

end

/-- A line break and spaces are white space. -/
theorem isSpace_breakLine (level : Nat) : IsSpace (breakLine level) := by
  refine List.forall_mem_cons.mpr ⟨rfl, fun c hc => ?_⟩
  rw [List.eq_of_mem_replicate hc]
  rfl

/-- One space is white space. -/
theorem isSpace_singleton : IsSpace [' '] := List.forall_mem_singleton.mpr rfl

mutual

/-- The indented form of a value is a writing of it. -/
theorem written_indentedChars :
    ∀ (v : Json) (level : Nat), v.isExact = true → Written v (indentedChars level v)
  | .null, _, _ => .null
  | .bool true, _, _ => .yes
  | .bool false, _, _ => .no
  | .int i, _, _ => written_intChars i
  | .text s, _, _ => written_textChars (fun _ => true) s
  | .list [], _, _ => .emptyList isSpace_nil
  | .list (item :: rest), level, h => by
    rw [isExact] at h
    obtain ⟨cs, hcs, hwritten⟩ := itemsWritten_indentedItems (item :: rest) (level + 1) h
      (List.cons_ne_nil _ _) _ (isSpace_breakLine level)
    rw [indentedChars, List.cons_append, List.cons_append, hcs, List.append_assoc]
    · exact .list (isSpace_breakLine _) hwritten
    · exact List.cons_ne_nil _ _
  | .object [], _, _ => .emptyObject isSpace_nil
  | .object (field :: rest), level, h => by
    rw [isExact] at h
    obtain ⟨cs, hcs, hwritten⟩ := fieldsWritten_indentedFields (field :: rest) (level + 1) h
      (List.cons_ne_nil _ _) _ (isSpace_breakLine level)
    rw [indentedChars, List.cons_append, List.cons_append, hcs, List.append_assoc]
    · exact .object (isSpace_breakLine _) hwritten
    · exact List.cons_ne_nil _ _

/-- Items on lines of their own are written with commas between them. -/
theorem itemsWritten_indentedItems : ∀ (items : List Json) (level : Nat),
    itemsExact items = true → items ≠ [] → ∀ behind : List Char, IsSpace behind →
      ∃ cs, indentedItems level items ++ behind = breakLine level ++ cs ∧ ItemsWritten items cs
  | [], _, _, hne, _, _ => absurd rfl hne
  | [item], level, h, _, behind, hbehind => by
    rw [itemsExact, Bool.and_eq_true] at h
    exact ⟨_, List.append_assoc _ _ _, .last (written_indentedChars item level h.1) hbehind⟩
  | item :: next :: rest, level, h, _, behind, hbehind => by
    rw [itemsExact, Bool.and_eq_true] at h
    obtain ⟨cs, hcs, hwritten⟩ := itemsWritten_indentedItems (next :: rest) level h.2
      (List.cons_ne_nil _ _) behind hbehind
    refine ⟨_, ?_, .more (written_indentedChars item level h.1) isSpace_nil
      (isSpace_breakLine level) hwritten⟩
    rw [← hcs]
    simp [indentedItems]

/-- Fields on lines of their own are written with commas between them. -/
theorem fieldsWritten_indentedFields : ∀ (fields : List (String × Json)) (level : Nat),
    fieldsExact fields = true → fields ≠ [] → ∀ behind : List Char, IsSpace behind →
      ∃ cs, indentedFields level fields ++ behind = breakLine level ++ cs ∧
        FieldsWritten fields cs
  | [], _, _, hne, _, _ => absurd rfl hne
  | [(name, value)], level, h, _, behind, hbehind => by
    rw [fieldsExact, Bool.and_eq_true] at h
    refine ⟨_, ?_, .last (spellsAll_flatMap (fun _ => true) name.toList) isSpace_nil
      isSpace_singleton (written_indentedChars value level h.1) hbehind⟩
    simp [fieldText, indentedFields, textChars]
  | (name, value) :: next :: rest, level, h, _, behind, hbehind => by
    rw [fieldsExact, Bool.and_eq_true] at h
    obtain ⟨cs, hcs, hwritten⟩ := fieldsWritten_indentedFields (next :: rest) level h.2
      (List.cons_ne_nil _ _) behind hbehind
    refine ⟨_, ?_, .more (spellsAll_flatMap (fun _ => true) name.toList) isSpace_nil
      isSpace_singleton (written_indentedChars value level h.1) isSpace_nil
      (isSpace_breakLine level) hwritten⟩
    rw [← hcs]
    simp [fieldText, indentedFields, textChars]

end

/-! ## Round trips -/

end Json

end InstanceLink
