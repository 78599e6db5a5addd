import Lockstep.Codec.Program
import Lockstep.Node.Basic
import Lockstep.Scenario.Basic

/-!
What came of a step, where a node is in its life and which scenario is meant, as JSON.
-/
namespace Lockstep

open Json

/-- The failure of a step as JSON. -/
def StepError.toJson : StepError → Json
  | .fault reason => .obj [("Fault", reason.toJson)]
  | .poolExhausted => .str "PoolExhausted"

/-- What came of a step as JSON. -/
def StepOutcome.toJson : StepOutcome → Json
  | .unchanged => .str "Unchanged"
  | .changed => .str "Changed"
  | .failed error => .obj [("Error", error.toJson)]

/-- Where a node is in its life, as JSON. -/
def Lifecycle.toJson : Lifecycle → Json
  | .uninitialized => .str "Uninitialized"
  | .ready => .str "Ready"
  | .terminated => .str "Terminated"

/-- A scenario as JSON. -/
def Scenario.toJson : Scenario → Json
  | .ringElection => .str "RingElection"
  | .broadcastElection => .str "BroadcastElection"
  | .silent => .str "Silent"
  | .poolExhaustion => .str "PoolExhaustion"
  | .programFault => .str "ProgramFault"
  | .fixedDelay => .str "FixedDelay"

end Lockstep
