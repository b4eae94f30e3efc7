import InstanceLink.Console.Markup
import InstanceLink.Console.Wrap
import InstanceLink.Number.Binary64

/-!
# Tables

A table has a title and columns of cells under headings, all of them markup. It is
as wide as its cells need and no wider than the console: when it would be wider, the
widest columns give way first. Cells are wrapped at blanks, words too long for a
column are cut short, and the title is centred over the table.
-/

namespace InstanceLink.Console

/-- A column: its heading and its cells from the top. -/
structure Column where
  heading : String
  cells : List String
  deriving DecidableEq, Repr

/-- A table. -/
structure Table where
  title : String
  columns : List Column
  deriving DecidableEq, Repr

/-- The space on both sides of a cell's text. -/
def cellPadding : Nat := 1

/-- The characters at which a line ends when a text is measured. -/
def endsLine (c : Char) : Bool :=
  let n := c.toNat
  n = 10 || (0x1c ≤ n && n ≤ 0x1e) || n = 0x85 || n = 0x2028 || n = 0x2029

/-- The cells of the longest line of a text, given those of the line so far. -/
def longestLine (used : Nat) : List Char → Nat
  | [] => used
  | c :: rest => if endsLine c then max used (longestLine 0 rest)
    else longestLine (used + cellsOf c) rest

/-- The room a cell wants, out of some that there is. -/
def wantedBy (room : Nat) (cs : List Char) : Nat := min room (longestLine 0 cs + 2 * cellPadding)

/-- A cell wants no more than there is. -/
theorem wantedBy_le (room : Nat) (cs : List Char) : wantedBy room cs ≤ room := by
  unfold wantedBy
  omega

/-- The width of a column before any has given way. -/
def wantedWidth (room : Nat) (texts : List (List Char)) : Nat :=
  max 1 (texts.foldl (fun most cs => max most (wantedBy room cs)) 0)

/-- Take a total away from the columns that give way, each no more than a limit. The
total is shared out evenly, column by column, a half going to the even neighbour. -/
def shareOut (limit total givers : Nat) : List (Nat × Bool) → List Nat
  | [] => []
  | (width, gives) :: rest =>
    if gives then
      let share := min limit (Binary64.roundHalfEven total givers)
      (width - share) :: shareOut limit (total - share) (givers - 1) rest
    else width :: shareOut limit total givers rest

/-- The greatest of some widths. -/
def greatest (widths : List Nat) : Nat := widths.foldl max 0

/-- One round of giving way: the widest columns shrink towards the next widest. -/
def shrinkOnce (excess : Nat) (widths : List Nat) : List Nat :=
  let most := greatest widths
  let next := greatest (widths.filter fun w => w != most)
  let marked := widths.map fun w => (w, w == most)
  shareOut (min excess (most - next)) excess (marked.filter Prod.snd).length marked

/-- Columns give way until they fit. -/
def shrink (room : Nat) (widths : List Nat) : Nat → List Nat
  | 0 => widths
  | fuel + 1 =>
    if sumOf widths ≤ room then widths
    else shrink room (shrinkOnce (sumOf widths - room) widths) fuel

/-- The widths of columns, from the texts of each. -/
def columnWidths (room : Nat) (columns : List (List (List Char))) : List Nat :=
  let wanted := columns.map (wantedWidth room)
  shrink room wanted (sumOf wanted)

/-- The lines of a cell in a column of a width. A column without room for text has
none. -/
def cellLines (width : Nat) (cs : List Char) : List (List Char) :=
  if width ≤ 2 * cellPadding then []
  else (wrap (width - 2 * cellPadding) .ellipsis .left cs).map fun line =>
    blanks cellPadding ++ line ++ blanks cellPadding

/-- Lines filled up with empty ones to a height, below them or above. -/
def fillHeight (width height : Nat) (atBottom : Bool) (rows : List (List Char)) :
    List (List Char) :=
  let empty := List.replicate (height - rows.length) (blanks width)
  if atBottom then empty ++ rows else rows ++ empty

/-- The characters of a rule: at the left, along it, between columns, at the right. -/
structure RuleStyle where
  left : Char
  along : Char
  cross : Char
  right : Char

/-- The rule above the headings. -/
def topRule : RuleStyle := ⟨'┏', '━', '┳', '┓'⟩

/-- The rule below the headings. -/
def headingRule : RuleStyle := ⟨'┡', '━', '╇', '┩'⟩

/-- The rule at the bottom. -/
def bottomRule : RuleStyle := ⟨'└', '─', '┴', '┘'⟩

/-- The bar between headings. -/
def headingBar : Char := '┃'

/-- The bar between other cells. -/
def cellBar : Char := '│'

/-- A rule over columns of some widths. -/
def RuleStyle.draw (r : RuleStyle) (widths : List Nat) : List Char :=
  r.left :: ([r.cross].intercalate (widths.map fun w => List.replicate w r.along)) ++ [r.right]

/-- The lines of one row of cells. -/
def rowLines (bar : Char) (atBottom : Bool) (widths : List Nat) (row : List (List Char)) :
    List (List Char) :=
  let blocks := (widths.zip row).map fun (width, cs) => (width, cellLines width cs)
  let height := max 1 (greatest (blocks.map fun block => block.2.length))
  let filled := blocks.map fun (width, rows) => fillHeight width height atBottom rows
  (List.range height).map fun i =>
    bar :: [bar].intercalate (filled.map fun rows => rows.getD i []) ++ [bar]

/-- The row of a position in columns. -/
def rowAt (columns : List (List (List Char))) (i : Nat) : List (List Char) :=
  columns.map fun texts => texts.getD i []

/-- The lines of the body of a table: rules, headings and rows. -/
def bodyLines (widths : List Nat) (columns : List (List (List Char))) : List (List Char) :=
  let height := greatest (columns.map List.length)
  let rows := (List.range (height - 1)).flatMap fun i =>
    rowLines cellBar false widths (rowAt columns (i + 1))
  topRule.draw widths :: rowLines headingBar true widths (rowAt columns 0) ++
    headingRule.draw widths :: rows ++ [bottomRule.draw widths]

/-- Lines with their marks, each cut to the width of the console. -/
def printedLines (width : Nat) (rows : List (List Char)) : List Char :=
  rows.flatMap fun line => truncate width .fold line ++ ['\n']

namespace Table

/-- The room for the cells of a table on a console: what its bars leave. -/
def room (t : Table) (width : Nat) : Nat := width - (t.columns.length + 1)

/-- The texts of all cells, column by column. Without room for any text they are
not looked at. -/
def texts (t : Table) (width : Nat) : Except MarkupFault (List (List (List Char))) :=
  t.columns.mapM fun c =>
    (c.heading :: c.cells).mapM fun s =>
      if t.room width ≤ 2 * cellPadding then .ok [] else render s.toList

/-- A table as it is drawn on a console of a width. -/
def draw (t : Table) (width : Nat) : Except MarkupFault String := do
  if width = 0 then return ""
  let texts ← t.texts width
  let widths := columnWidths (t.room width) texts
  let title ← render t.title.toList
  let heading := wrap (sumOf widths + t.columns.length + 1) .fold .center title
  return String.ofList (printedLines width (heading ++ bodyLines widths texts))

end Table

/-- A text with markup as it is printed on a console of a width. -/
def print (width : Nat) (markup : List Char) : Except MarkupFault String := do
  if width = 0 then return ""
  let text ← render markup
  return String.ofList (printedLines width (wrap width .fold .unfilled text))

end InstanceLink.Console
