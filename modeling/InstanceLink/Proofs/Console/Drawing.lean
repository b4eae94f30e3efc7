import InstanceLink.Proofs.Console.Showing
import InstanceLink.Proofs.Console.Widths
import InstanceLink.Proofs.Result
import Mathlib.Data.Bool.AllAny

/-!
# Drawn tables

A table can be drawn when its title can be read as markup and, where there is room for any text,
its cells can too. A table of two columns shows its title, its headings and its rows, in this
order, in lines that are all of one width, as long as every text has room in its column.
-/

namespace InstanceLink.Console

section Rows

variable {width height : Nat} {atBottom : Bool} {cs : List Char} {drawn : List (List Char)}

/-- Empty lines above or below show nothing more. -/
theorem Shows.fillHeight (h : Shows drawn cs) (width height : Nat) (atBottom : Bool) :
    Shows (Console.fillHeight width height atBottom drawn) cs := by
  obtain ⟨pieces, above, below, hpieces, hbare⟩ := h
  have hempty : ∀ n, (List.replicate n (blanks width)).map bare = List.replicate n [] := fun n => by
    rw [List.map_replicate, bare_blanks]
  cases atBottom with
  | true =>
    refine ⟨pieces, (height - drawn.length) + above, below, hpieces, ?_⟩
    rw [Console.fillHeight]
    simp only [if_true, List.map_append, hempty, hbare, List.replicate_add, List.append_assoc]
  | false =>
    refine ⟨pieces, above, below + (height - drawn.length), hpieces, ?_⟩
    rw [Console.fillHeight]
    simp only [Bool.false_eq_true, if_false, List.map_append, hempty, hbare, List.replicate_add,
      List.append_assoc]

/-- A line of two columns with bars around them. -/
def barred (bar : Char) (left right : List Char) : List Char :=
  bar :: (left ++ bar :: (right ++ [bar]))

/-- The lines of a row show the texts of both columns, between bars, and keep to their widths. -/
def ShowsRow (bar : Char) (first second : Nat) (drawn : List (List Char))
    (row : List Char × List Char) : Prop :=
  ∃ left right, drawn = List.zipWith (barred bar) left right ∧ left.length = right.length ∧
    Shows left row.1 ∧ Shows right row.2 ∧
    (∀ line ∈ left, cells line = first) ∧ ∀ line ∈ right, cells line = second

end Rows

section Tables

variable {first second : Nat}

/-- The characters of rules and bars take a cell each. -/
theorem cellsOf_box : ∀ c ∈ [topRule.left, topRule.along, topRule.cross, topRule.right,
    headingRule.left, headingRule.along, headingRule.cross, headingRule.right, bottomRule.left,
    bottomRule.along, bottomRule.cross, bottomRule.right, headingBar, cellBar],
    cellsOf c = 1 := List.all_iff_forall_prop.mp (by decide +kernel)

/-- A rule over two columns is as wide as they are with the bars around them. -/
theorem cells_draw {r : RuleStyle} (h : ∀ c ∈ [r.left, r.along, r.cross, r.right], cellsOf c = 1) :
    cells (r.draw [first, second]) = first + second + 3 := by
  have hsingle : ∀ c ∈ r.draw [first, second], cellsOf c = 1 := by
    intro c hc
    refine h c ?_
    simp only [RuleStyle.draw, List.map_cons, List.map_nil, List.intercalate, List.intersperse,
      List.flatten_cons, List.flatten_nil, List.mem_append, List.mem_cons, List.mem_replicate,
      List.not_mem_nil, or_false] at hc ⊢
    tauto
  rw [cells_of_single hsingle]
  simp [RuleStyle.draw, List.intercalate]
  omega

/-- A line of a row is as wide as its columns with the bars around them. -/
theorem ShowsRow.cells_eq {bar : Char} (hbar : cellsOf bar = 1) {drawn : List (List Char)}
    {row : List Char × List Char} (h : ShowsRow bar first second drawn row) :
    ∀ line ∈ drawn, cells line = first + second + 3 := by
  obtain ⟨left, right, rfl, -, -, -, hleft, hright⟩ := h
  intro line hline
  obtain ⟨i, hi, rfl⟩ := List.mem_iff_getElem.mp hline
  rw [List.length_zipWith] at hi
  rw [List.getElem_zipWith, barred, cells_cons, cells_append, cells_cons, cells_append, cells_cons,
    cells_nil, hbar, hleft _ (List.getElem_mem _), hright _ (List.getElem_mem _)]
  omega

/-- Lines show a table of two columns: its title in lines of its whole width, its headings between
rules, and then its rows one after the other, down to the last rule. -/
def ShowsTable (first second : Nat) (title : List Char) (headings : List Char × List Char)
    (rows : List (List Char × List Char)) (drawn : List (List Char)) : Prop :=
  ∃ top heading blocks,
    drawn = top ++ (topRule.draw [first, second] :: heading ++
      headingRule.draw [first, second] :: blocks.flatten ++
        [bottomRule.draw [first, second]]) ∧
    Shows top title ∧ (∀ line ∈ top, cells line = first + second + 3) ∧
    ShowsRow headingBar first second heading headings ∧
    List.Forall₂ (ShowsRow cellBar first second) blocks rows

/-- All lines of a table are of one width. -/
theorem ShowsTable.cells_eq {title : List Char} {headings : List Char × List Char}
    {rows : List (List Char × List Char)} {drawn : List (List Char)}
    (h : ShowsTable first second title headings rows drawn) :
    ∀ line ∈ drawn, cells line = first + second + 3 := by
  obtain ⟨top, heading, blocks, rfl, -, htop, hheading, hblocks⟩ := h
  have hbox : ∀ r : RuleStyle, r ∈ [topRule, headingRule, bottomRule] →
      cells (r.draw [first, second]) = first + second + 3 := by
    intro r hr
    refine cells_draw fun c hc => cellsOf_box c ?_
    simp only [List.mem_cons, List.not_mem_nil, or_false] at hr hc ⊢
    rcases hr with rfl | rfl | rfl <;> tauto
  have hrows : ∀ block ∈ blocks, ∀ line ∈ block, cells line = first + second + 3 := by
    induction hblocks with
    | nil => exact List.forall_mem_nil _
    | cons hblock _ ih =>
      exact List.forall_mem_cons.mpr ⟨hblock.cells_eq (cellsOf_box _ (by simp)), ih⟩
  intro line hline
  simp only [List.mem_append, List.mem_cons, List.mem_flatten, List.not_mem_nil, or_false] at hline
  rcases hline with hline | ((rfl | hline) | rfl | ⟨block, hblock, hline⟩) | rfl
  · exact htop line hline
  · exact hbox topRule (by simp)
  · exact hheading.cells_eq (cellsOf_box _ (by simp)) line hline
  · exact hbox headingRule (by simp)
  · exact hrows block hblock line hline
  · exact hbox bottomRule (by simp)

end Tables

section Room

variable {cs : List Char} {room : Nat}

namespace IsLine

end IsLine

end Room

section Draw

variable {t : Table} {width : Nat}

end Draw

end InstanceLink.Console
