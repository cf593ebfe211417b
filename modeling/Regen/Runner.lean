import Regen.Generator
import Regen.Transform

/-!
# Runners

Who does the runs of a compiler. A runner never answers while it is being asked: its answer comes
later, and a request it drops is answered as cancelled.

* `Runner`   the three kinds of runners.
-/

namespace Regen

inductive Runner where
  /-- the host keeps the requests and answers them as it likes. -/
  | manual
  | transform (apply : Transform)
  | generator (program : Generator) (pollInterval : Nat)

/-- whether the host answers the requests. -/
def Runner.isManual : Runner → Bool
  | .manual => true
  | _ => false

end Regen
