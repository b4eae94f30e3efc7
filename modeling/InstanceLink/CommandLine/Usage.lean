import InstanceLink.CommandLine.Flag

/-!
# Usage and help

The usage line and the help, laid out for a screen of some columns. The usage
breaks between flags and goes on below the program's name. In the help, purposes
stand in a column of their own, wrapped at spaces.
-/

namespace InstanceLink.CommandLine

/-- Words put into lines: each line holds as many as keep it within a width, counted
from where the text of every line starts. The first line may start elsewhere. -/
def fillLines (width indent used : Nat) (line : List String) : List String → List (List String)
  | [] => if line.isEmpty then [] else [line]
  | part :: rest =>
    if width < used + 1 + part.length && !line.isEmpty then
      line :: fillLines width indent (indent - 1 + part.length + 1) [part] rest
    else fillLines width indent (used + part.length + 1) (line ++ [part]) rest

/-- Filling lines loses no word. -/
theorem flatten_fillLines (width indent used : Nat) (line parts : List String) :
    (fillLines width indent used line parts).flatten = line ++ parts := by
  induction parts generalizing used line with
  | nil => cases line <;> simp [fillLines]
  | cons part rest ih =>
    unfold fillLines
    split <;> simp [ih]

/-- Some spaces. -/
def spaces (n : Nat) : String := String.ofList (List.replicate n ' ')

/-- What every usage line starts with. -/
def usageLead : String := "usage: "

/-- The flags as the usage shows them. -/
def usageParts : List String := Flag.all.map Flag.usage

/-- The lines of the usage behind its lead. -/
def usageLines (width : Nat) : List String :=
  let whole := " ".intercalate (programName :: usageParts)
  if usageLead.length + whole.length ≤ width then [whole]
  else if 4 * (usageLead.length + programName.length) ≤ 3 * width then
    let indent := usageLead.length + programName.length + 1
    match fillLines width indent (usageLead.length - 1) [] (programName :: usageParts) with
    | [] => []
    | first :: rest =>
      " ".intercalate first :: rest.map fun line => spaces indent ++ " ".intercalate line
  else
    let indent := usageLead.length
    programName ::
      (fillLines width indent (indent - 1) [] usageParts).map fun line =>
        spaces indent ++ " ".intercalate line

/-- The usage for a width. -/
def usageText (width : Nat) : String := usageLead ++ "\n".intercalate (usageLines width)

/-- What the program is for. -/
def description : String := "AlloyDB Connector: fetch connection info and a client certificate"

/-- An instance by its four parts, as the examples name it. -/
def exampleName (project location cluster leaf : String) : String :=
  "projects/" ++ project ++ "/locations/" ++ location ++ "/clusters/" ++ cluster ++ "/instances/" ++
    leaf

/-- Examples of its use. -/
def examples : String := "\n".intercalate
  ["Examples:",
    "  # Fetch connection info for an instance",
    "  alloydb-connector --instance " ++
      exampleName "my-project" "us-central1" "my-cluster" "my-instance",
    "",
    "  # Use ALLOYDB_INSTANCE_NAME and print JSON",
    "  ALLOYDB_INSTANCE_NAME=" ++ exampleName "p" "l" "c" "i" ++ " alloydb-connector --json"]

/-- A text as words with single spaces between them. -/
def wordChunks (s : String) : List String := (s.splitOn " ").intersperse " "

/-- A line of chunks without a space at its end. -/
def closeLine (line : List String) : List String :=
  let line := if (line.getLast?.map fun c => c.isEmpty || c = " ") = some true then line.dropLast
    else line
  if line.isEmpty then [] else ["".intercalate line]

/-- Chunks put into lines of a width, with fuel for their number and length. A space
does not start a line; a word longer than a line is broken where the line ends. -/
def wrapChunks (width used : Nat) (line : List String) (any : Bool) :
    Nat → List String → List String
  | 0, _ => closeLine line
  | _, [] => closeLine line
  | fuel + 1, chunk :: rest =>
    if line.isEmpty && used = 0 && any && chunk = " " then wrapChunks width 0 [] any fuel rest
    else if used + chunk.length ≤ width then
      wrapChunks width (used + chunk.length) (line ++ [chunk]) any fuel rest
    else if chunk.length ≤ width then
      closeLine line ++ wrapChunks width 0 [] true fuel (chunk :: rest)
    else
      let front := String.ofList (chunk.toList.take (width - used))
      let back := String.ofList (chunk.toList.drop (width - used))
      closeLine (line ++ [front]) ++ wrapChunks width 0 [] true fuel (back :: rest)

/-- A text of words in lines of a width. -/
def wrapWords (width : Nat) (s : String) : List String :=
  wrapChunks width 0 [] false (4 * s.length + 4) (wordChunks s)

/-- The column of the help at which purposes start. -/
def purposeColumn (width : Nat) : Nat :=
  let longest := (Flag.all.map fun f => f.listing.length + 2).foldl max 0
  min (longest + 2) (min 24 (max (width - 20) 4))

/-- The least room for a purpose. -/
def leastRoom : Nat := 11

/-- The lines of the help about a flag. -/
def flagLines (width : Nat) (f : Flag) : List String :=
  let column := purposeColumn width
  let purposes := wrapWords (max (width - column) leastRoom) f.purpose
  let below := fun (rows : List String) => rows.map fun row => spaces column ++ row
  if f.listing.length + 4 ≤ column then
    (spaces 2 ++ f.listing ++ spaces (column - 2 - f.listing.length) ++ purposes.headD "") ::
      below (purposes.drop 1)
  else (spaces 2 ++ f.listing) :: below purposes

/-- The help for a width. -/
def helpText (width : Nat) : String :=
  "\n".intercalate
    (usageLines width |>.modifyHead (usageLead ++ ·)
      |> (· ++ ["", description, "", "options:"] ++ Flag.all.flatMap (flagLines width) ++
        ["", examples, ""]))

/-- The columns of a screen that does not say how many it has. -/
def standardColumns : Nat := 80

/-- The width of usage and help on a screen of some columns. -/
def usageWidth (columns : Nat) : Nat := columns - 2

end InstanceLink.CommandLine
