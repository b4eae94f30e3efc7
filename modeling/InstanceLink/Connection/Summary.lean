import InstanceLink.Connection.Info
import InstanceLink.Json.Basic

/-!
# Summaries of bundles

The eight facts about a bundle that are shown to a user, in a fixed order, as
JSON fields or as rows of text.
-/

namespace InstanceLink.ConnectionInfo

/-- An optional text as a JSON value. -/
def optionalText (s : Option String) : Json := s.elim .null Json.text

/-- The facts about a bundle. A name or an instant that cannot be read is a fault. -/
def summary (info : ConnectionInfo) : Except Fault (List (String × Json)) := do
  let subject ← info.clientCertificate.subject.readable
  let expiration ← info.expiration
  let authority ← info.caCertificate.subject.readable
  return [("ip_address", .text info.ipAddress),
    ("public_ip_address", optionalText info.publicIpAddress),
    ("psc_dns_name", optionalText info.pscDnsName),
    ("instance_uid", .text info.instanceUid),
    ("client_certificate_subject", .text subject),
    ("client_certificate_expiration", .text expiration.text),
    ("certificate_chain_length", .int info.certificateChain.length),
    ("ca_certificate_subject", .text authority)]

/-- A fact as the text of a table cell; an absent one is a dash. -/
def cellText : Json → String
  | .null => "-"
  | .text value => value
  | .int value => toString value
  | _ => ""

/-- The title of the table of a bundle. -/
def tableTitle (name : InstanceName) : String := "Connection Info: " ++ name.text

/-- The headings of the table's columns, each with the style of its column. -/
def tableHeaders : List (String × String) := [("Field", "cyan"), ("Value", "green")]

/-- The rows of the table of a bundle. -/
def tableRows (info : ConnectionInfo) : Except Fault (List (String × String)) :=
  info.summary.map fun facts => facts.map fun (name, value) => (name, cellText value)

end InstanceLink.ConnectionInfo
