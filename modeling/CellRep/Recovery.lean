import CellRep.Harmony

/-!
# Recovery after faults

Any number of operations are started at any time, also twice on one guid. Their calls fail for
no reason, or seem to fail although they did what was asked, and an operation may be given up
in the middle. Meanwhile the containers go on by themselves, and the BBS takes records away
and gives them to other cells.

All of this keeps the rules the services go by. So the next sync that meets no faults finds
what it needs, and brings both sides into agreement.
-/

namespace CellRep

open Executor (Container)

section

variable {C : Cell} {w₀ w w' : World}

end

end CellRep
