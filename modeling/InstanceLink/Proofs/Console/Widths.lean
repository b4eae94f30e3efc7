import InstanceLink.Console.Table
import Mathlib.Order.Lattice

/-!
# Columns that give way

The columns of a table share the room that there is: each round takes something from the widest
ones while there is too little room, so in the end they fit, however much they want.
-/

namespace InstanceLink.Console

section Sums

end Sums

section Sharing

variable {limit total givers : Nat} {marked : List (Nat × Bool)}

end Sharing

section Rounds

end Rounds

end InstanceLink.Console
