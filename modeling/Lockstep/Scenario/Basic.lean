/-!
Scenarios: fixed combinations of program and router, each with a verdict on its run.
-/
namespace Lockstep

/-- The scenarios. -/
inductive Scenario where
  | ringElection
  | broadcastElection
  | silent
  | poolExhaustion
  | programFault
  | fixedDelay
  deriving DecidableEq

namespace Scenario

/-- All scenarios, in the order they are run. -/
def all : List Scenario :=
  [.ringElection, .broadcastElection, .silent, .poolExhaustion, .programFault, .fixedDelay]

/-- The name of a scenario. -/
def name : Scenario → String
  | .ringElection => "ring_election"
  | .broadcastElection => "broadcast_election"
  | .silent => "silent"
  | .poolExhaustion => "pool_exhaustion"
  | .programFault => "program_fault"
  | .fixedDelay => "fixed_delay"

/-- The other names a scenario goes by. -/
def aliases : Scenario → List String
  | .ringElection => ["ringelection", "ring", "gpn-001"]
  | .broadcastElection => ["broadcastelection", "broadcast", "gpn-002"]
  | .silent => ["gpn-003"]
  | .poolExhaustion => ["poolexhaustion", "gpn-004"]
  | .programFault => ["programfault", "fault", "gpn-005"]
  | .fixedDelay => ["fixeddelay", "gpn-006"]

/-- What a scenario is about. -/
def description : Scenario → String
  | .ringElection => "Ring of nodes gossiping ids every tick, verify max-id convergence"
  | .broadcastElection => "Broadcast on id change only, verify max-id convergence"
  | .silent => "No reads, writes or sends; idle count equals ticks run"
  | .poolExhaustion => "Pool of one buffer, two senders; run fails on resource exhaustion"
  | .programFault => "Division by zero at tick 5; run fails with a program fault"
  | .fixedDelay => "min_delay == max_delay; two seeds produce identical results"

/-- The scenario passes when its run fails. -/
def expectsFailure : Scenario → Bool
  | .poolExhaustion => true
  | .programFault => true
  | _ => false

/-- The scenario of a name or alias, in upper or lower case. Names are spelt with letters of ASCII
and without `k`; no other letter has one of those as its lower-case form, so lower case for ASCII
decides the same. -/
def ofName? (text : String) : Option Scenario :=
  let lower := text.map Char.toLower
  all.find? fun scenario => (scenario.name :: scenario.aliases).contains lower

end Scenario

end Lockstep
