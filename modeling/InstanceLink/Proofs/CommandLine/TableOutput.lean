import InstanceLink.Proofs.CommandLine.JsonOutput
import InstanceLink.Proofs.Console.Drawing
import InstanceLink.Proofs.Console.Unmarked

/-!
# Bundles as tables

The title and the values of a table are markup, whatever they come from. A run that shows a bundle
as a table returns zero exactly when all of them can be read as such; the table then shows what
they render to, where there is room for it. So it shows texts as they are when nothing in them is
read as markup, and nothing at all when one of them closes a tag that is not open.
-/

namespace InstanceLink.CommandLine

open ConnectionInfo Console

/-- The rows of the table of some facts: the name of each, and its text. -/
def rowsOf (facts : List (String × Json)) : List (String × String) :=
  facts.map fun (name, value) => (name, cellText value)

/-- The headings of the columns. -/
def headings : List Char × List Char := ("Field".toList, "Value".toList)

section Names

end Names

section Shown

variable {s : Settings} {screen : Screen} {width : Nat} {name : InstanceName}
  {info : ConnectionInfo} {facts : List (String × Json)}

end Shown

end InstanceLink.CommandLine
