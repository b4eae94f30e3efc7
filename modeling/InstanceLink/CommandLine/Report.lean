import InstanceLink.Connection.Summary
import InstanceLink.Console.Table
import InstanceLink.Json.Printer

/-!
# What the command shows

A bundle as indented JSON or as a table, and a failure as a line that says whether
trying again may help. Messages are escaped, so that nothing in them is markup; the
texts of a table are markup.
-/

namespace InstanceLink.CommandLine

/-- A fault of showing a result. -/
inductive ShowFault where
  /-- The bundle has no summary. -/
  | summary (fault : Fault)
  /-- A text of the table is no markup. -/
  | markup (fault : Console.MarkupFault)

/-- The label of a failure in markup, by whether it is terminal. -/
def failureLabel (isTerminal : Bool) : String :=
  if isTerminal then "[bold red]Terminal failure:[/bold red] "
  else "[red]Transient failure (safe to retry):[/red] "

/-- The line about a failure as a console of a width shows it, colours aside. -/
def failureText (width : Nat) (error : ConnectorError) : Except ShowFault String :=
  (Console.print width ((failureLabel (error.kind = .terminal)).toList ++
    Console.escape error.text.toList)).mapError .markup

/-- A bundle as JSON, colours aside. A console without a column shows nothing. -/
def jsonText (width : Nat) (info : ConnectionInfo) : Except ShowFault String := do
  let facts ← info.summary.mapError .summary
  return if width = 0 then "" else (Json.object facts).indented ++ "\n"

/-- The table of a bundle. -/
def table (name : InstanceName) (rows : List (String × String)) : Console.Table :=
  let columns :=
    match ConnectionInfo.tableHeaders.map Prod.fst with
    | [names, values] => [⟨names, rows.map Prod.fst⟩, ⟨values, rows.map Prod.snd⟩]
    | _ => []
  ⟨ConnectionInfo.tableTitle name, columns⟩

/-- A bundle as a table as a console of a width shows it, colours aside. -/
def tableText (width : Nat) (name : InstanceName) (info : ConnectionInfo) :
    Except ShowFault String := do
  let rows ← info.tableRows.mapError .summary
  ((table name rows).draw width).mapError .markup

end InstanceLink.CommandLine
