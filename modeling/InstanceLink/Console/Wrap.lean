import InstanceLink.Console.Cell
import InstanceLink.Text.Blank

/-!
# Wrapping text into lines

A text is laid out in lines of a given number of cells. Lines break between words;
a word keeps the blanks behind it, and those may hang over the end of a line. A word
longer than a line is folded over several lines or cut short. Dividing a text at
the breaks loses none of it; only filling and cutting change a line.
-/

namespace InstanceLink.Console

/-- What becomes of a word that is longer than a line. -/
inductive Overflow where
  | fold
  /-- Cut it short and end it with a mark of omission. -/
  | ellipsis
  deriving DecidableEq, Repr

/-- How a line is filled up to its width. -/
inductive Justify where
  | unfilled
  | left
  | center
  deriving DecidableEq, Repr

/-- A word with the blanks that stand around it, and where in its line it starts. -/
structure Word where
  start : Nat
  chars : List Char
  deriving DecidableEq, Repr

/-- The lines of a text, without their line marks. -/
def lines : List Char → List (List Char)
  | [] => [[]]
  | c :: cs =>
    if c = '\n' then [] :: lines cs
    else
      match lines cs with
      | [] => [[c]]
      | line :: rest => (c :: line) :: rest

/-- The words of a line from a position on. Blanks without a word behind them are
no word. -/
def wordsFrom (start : Nat) (cs : List Char) : Nat → List Word
  | 0 => []
  | fuel + 1 =>
    let isInk : Char → Bool := fun c => !Text.isBlank c
    let rest := cs.dropWhile Text.isBlank
    if rest.isEmpty then []
    else
      let tail := rest.dropWhile isInk
      let word :=
        cs.takeWhile Text.isBlank ++ rest.takeWhile isInk ++ tail.takeWhile Text.isBlank
      ⟨start, word⟩ :: wordsFrom (start + word.length) (tail.dropWhile Text.isBlank) fuel

/-- The words of a line. -/
def words (cs : List Char) : List Word := wordsFrom 0 cs cs.length

/-- A text without the blanks at its end. -/
def withoutTrail (cs : List Char) : List Char := (cs.reverse.dropWhile Text.isBlank).reverse

/-- A word chopped into pieces that fit a line, behind what the first piece already
holds. -/
def chopFrom (width used : Nat) (piece : List Char) : List Char → List (List Char)
  | [] => [piece.reverse]
  | c :: rest =>
    if width < used + cellsOf c then
      piece.reverse :: chopFrom width (cellsOf c) [c] rest
    else chopFrom width (used + cellsOf c) (c :: piece) rest

/-- A word chopped into pieces that fit a line. -/
def chop (width : Nat) (cs : List Char) : List (List Char) := chopFrom width 0 [] cs

/-- The pieces in a row are the word. -/
theorem flatten_chop (width : Nat) (cs : List Char) : (chop width cs).flatten = cs := by
  have h : ∀ (used : Nat) (piece cs : List Char),
      (chopFrom width used piece cs).flatten = piece.reverse ++ cs := by
    intro used piece cs
    induction cs generalizing used piece with
    | nil => simp [chopFrom]
    | cons c rest ih =>
      unfold chopFrom
      split <;> simp [ih]
  simpa [chop] using h 0 [] cs

/-- The breaks before the pieces of a word that starts at a position. There is none
at the start of the line. -/
def pieceBreaks (start : Nat) : List (List Char) → List Nat
  | [] => []
  | piece :: rest =>
    (if start = 0 then [] else [start]) ++ pieceBreaks (start + piece.length) rest

/-- Where laying out a line has got to. -/
structure Layout where
  /-- Cells in use on the line that is being filled. -/
  used : Nat
  /-- The breaks made, in ascending order. -/
  breaks : List Nat

/-- Lay out one more word. The blanks behind a word need no room. -/
def Layout.place (width : Nat) (overflow : Overflow) (l : Layout) (w : Word) : Layout :=
  let room := cells (withoutTrail w.chars)
  if l.used + room ≤ width then ⟨l.used + cells w.chars, l.breaks⟩
  else if width < room then
    match overflow with
    | .fold =>
      let pieces := chop width w.chars
      ⟨cells (pieces.getLastD []), l.breaks ++ pieceBreaks w.start pieces⟩
    | .ellipsis =>
      ⟨cells w.chars, if w.start = 0 then l.breaks else l.breaks ++ [w.start]⟩
  else if l.used = 0 || w.start = 0 then l
  else ⟨cells w.chars, l.breaks ++ [w.start]⟩

/-- Where a line breaks. -/
def breaks (width : Nat) (overflow : Overflow) (cs : List Char) : List Nat :=
  ((words cs).foldl (Layout.place width overflow) ⟨0, []⟩).breaks

/-- A line divided at breaks that are counted from a position before it. -/
def divide (start : Nat) (cs : List Char) : List Nat → List (List Char)
  | [] => [cs]
  | b :: rest => cs.take (b - start) :: divide b (cs.drop (b - start)) rest

/-- Dividing loses nothing. -/
theorem flatten_divide (start : Nat) (cs : List Char) (row : List Nat) :
    (divide start cs row).flatten = cs := by
  induction row generalizing start cs with
  | nil => simp [divide]
  | cons b rest ih => simp [divide, ih]

/-- The distance between the stops of tabulation. -/
def tabWidth : Nat := 8

/-- Tabulation marks replaced by spaces up to the next stop. -/
def expandTabs (used : Nat) : List Char → List Char
  | [] => []
  | c :: rest =>
    if c = '\t' then
      let gap := tabWidth - used % tabWidth
      blanks gap ++ expandTabs (used + gap) rest
    else c :: expandTabs (used + cellsOf c) rest

/-- Blanks at the end that go beyond the width taken away, counted by characters. -/
def cropTrail (width : Nat) (cs : List Char) : List Char :=
  let trail := cs.length - (withoutTrail cs).length
  cs.take (cs.length - min trail (cs.length - width))

/-- The mark of omission. -/
def ellipsisMark : Char := '…'

/-- A line cut to a width. -/
def truncate (width : Nat) (overflow : Overflow) (cs : List Char) : List Char :=
  if cells cs ≤ width then cs
  else
    match overflow with
    | .fold => fit width cs
    | .ellipsis => fit (width - 1) cs ++ [ellipsisMark]

/-- A line filled up to a width. -/
def justified (width : Nat) (overflow : Overflow) (justify : Justify) (cs : List Char) :
    List Char :=
  match justify with
  | .unfilled => cs
  | .left =>
    let line := truncate width overflow cs
    line ++ blanks (width - cells line)
  | .center =>
    let line := truncate width overflow (withoutTrail cs)
    let line := blanks ((width - cells line) / 2) ++ line
    line ++ blanks (width - cells line)

/-- A text in lines of a width. -/
def wrap (width : Nat) (overflow : Overflow) (justify : Justify) (cs : List Char) :
    List (List Char) :=
  (lines cs).flatMap fun line =>
    let line := expandTabs 0 line
    (divide 0 line (breaks width overflow line)).map fun piece =>
      truncate width overflow (justified width overflow justify (cropTrail width piece))

end InstanceLink.Console
