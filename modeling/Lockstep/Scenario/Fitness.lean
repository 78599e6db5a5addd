import Lockstep.Network.Report

/-!
Fitness: one number for a finished run, the higher the better.

Floats are not associative, so sums are taken in the order of the nodes and of the runs.
-/
namespace Lockstep

/-- A count as the nearest float, ties to the even one. Counts are below `wordCount`. -/
def floatOfCount (count : Nat) : Float :=
  (UInt64.ofNat count).toFloat

/-- The sum of floats from the left. The sum of none is minus zero, which changes nothing it is
added to. -/
def floatSum (terms : List Float) : Float :=
  terms.foldl (· + ·) (-0.0)

/-- What a run is rated by. -/
structure FitnessContext where
  ticksRun : Nat := 0
  /-- How much of the time nodes were not idle. -/
  reactiveness : Float := 0
  /-- How many of the nodes know the leader. -/
  correctness : Float := 0
  messagesPerTick : Float := 0
  failure : Option FailureCause := none

namespace FitnessContext

/-- The fraction of steps that were not idle. -/
def reactivenessOf (result : RunResult) : Float :=
  if result.ticksRun = 0 ∨ result.nodes = [] then 0
  else
    let fractions := result.nodes.map fun node =>
      floatOfCount (min node.idleStepCount result.ticksRun) / floatOfCount result.ticksRun
    1 - floatSum fractions / floatOfCount result.nodes.length

/-- The fraction of nodes whose `id` cell holds the greatest number of a node. -/
def correctnessOf (result : RunResult) (id : SymbolId) : Float :=
  if result.nodes = [] then 0
  else
    let leader := Cell.ofCount (result.nodes.length - 1)
    floatOfCount ((result.symbolValues id).countP (· == leader)) /
      floatOfCount result.nodes.length

/-- Messages sent for each tick run. -/
def messagesPerTickOf (result : RunResult) : Float :=
  if result.ticksRun = 0 then 0
  else floatOfCount result.stats.messagesSent / floatOfCount result.ticksRun

/-- What a run is rated by, where `id` is the symbol that nodes keep the leader in. -/
def ofRun (result : RunResult) (id : SymbolId) : FitnessContext where
  ticksRun := result.ticksRun
  reactiveness := reactivenessOf result
  correctness := correctnessOf result id
  messagesPerTick := messagesPerTickOf result
  failure := result.failureCause

/-- The run failed. -/
def isFailed (context : FitnessContext) : Bool :=
  context.failure.isSome

end FitnessContext

/-- What the score of a failed run is multiplied by. -/
structure FailurePenalty where
  programFault : Float := 0
  resourceExhausted : Float := 0.1

/-- The score of a run after the penalty for its failure. -/
def FailurePenalty.apply (penalty : FailurePenalty) (failure : Option FailureCause)
    (score : Float) : Float :=
  match failure with
  | none => score
  | some (.programFault _) => score * penalty.programFault
  | some (.resourceExhausted _) => score * penalty.resourceExhausted

/-- A way to rate runs. -/
inductive Fitness where
  /-- Weighs knowing the leader and reacting against the messages it takes. -/
  | election (known reacting messageCost : Float) (penalty : FailurePenalty)
  /-- Rates reacting alone. -/
  | reactiveness (penalty : FailurePenalty)

namespace Fitness

/-- The usual weights of an election. -/
def usualElection : Fitness :=
  .election 100 10 0.5 {}

/-- Rating by reacting alone, with the usual penalty. -/
def usualReactiveness : Fitness :=
  .reactiveness {}

/-- The name of the way. -/
def name : Fitness → String
  | .election .. => "LeaderElectionFitness"
  | .reactiveness _ => "ReactivenessFitness"

/-- The greater of a score and zero. What is not a number counts as zero. -/
def atLeastZero (score : Float) : Float :=
  if score > 0 then score else 0

/-- The score of a run. -/
def score (fitness : Fitness) (context : FitnessContext) : Float :=
  match fitness with
  | .election known reacting messageCost penalty =>
    penalty.apply context.failure (atLeastZero
      (known * context.correctness + reacting * context.reactiveness -
        messageCost * context.messagesPerTick))
  | .reactiveness penalty => penalty.apply context.failure (100 * context.reactiveness)

/-- The mean score of runs. One that was refused counts as zero. The mean of none is zero. -/
def mean (fitness : Fitness) (id : SymbolId) (runs : List (Option RunResult)) : Float :=
  if runs = [] then 0
  else
    floatSum (runs.map fun run => run.elim 0 fun result => fitness.score (.ofRun result id)) /
      floatOfCount runs.length

end Fitness

end Lockstep
