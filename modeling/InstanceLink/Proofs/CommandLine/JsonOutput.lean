import InstanceLink.Proofs.CommandLine.Outcome
import InstanceLink.Proofs.Json.Printing
import InstanceLink.Proofs.Result

/-!
# Bundles as JSON

A run that is asked for JSON puts out one object and a line end. The object is read back as the
facts about the bundle, character for character, whatever the texts are; it takes a console of at
least one column, and one without colours, which would stand between the characters.
-/

namespace InstanceLink

namespace ConnectionInfo

end ConnectionInfo

namespace CommandLine

section Shown

variable {arguments : List String} {env : Environment} {outside : Outside}
  {around : Surroundings} {p : Plan}

end Shown

end CommandLine

end InstanceLink
