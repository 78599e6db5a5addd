import Lockstep.Machine.Call
import Lockstep.Machine.Stock
import Lockstep.Network.Run
import Lockstep.Random.Seeded
import Lockstep.Scenario.Basic
import Lockstep.Scenario.Shortfall
import Lockstep.Table.Layout

/-!
Running scenarios.

A `Runner` holds a seed, the settings of the network and a number of ticks. Every scenario runs on
the standard table; some change the settings to suit what they are about.
-/
namespace Lockstep

/-- What came of a scenario. -/
structure ScenarioResult where
  scenario : Scenario
  seed : UInt64
  /-- The report of its run, unless the settings were refused. -/
  run : Option RunResult
  /-- Why it did not pass, unless it did. -/
  shortfall : Option Shortfall
  deriving DecidableEq

namespace ScenarioResult

/-- The scenario passed. -/
def passed (result : ScenarioResult) : Bool :=
  result.shortfall.isNone

/-- How many ticks were run. -/
def ticksRun (result : ScenarioResult) : Nat :=
  result.run.elim 0 (·.ticksRun)

/-- Why the scenario did not pass, in words. -/
def failureReason (result : ScenarioResult) : Option String :=
  result.shortfall.map Shortfall.message

end ScenarioResult

/-- How scenarios are run. -/
structure Runner where
  seed : UInt64
  config : NetworkConfig
  maxTicks : Nat
  deriving DecidableEq

namespace Runner

/-- A runner with the usual delays, buffers and ticks. -/
def new (seed : UInt64) (nodeCount : Nat) : Runner :=
  ⟨seed, { nodeCount, capacity := 256 }, 200⟩

/-- The tick that the scenario about faults has its fault in. -/
def faultTick : Nat := 5

/-- What the seed of the second run of a pair differs by. -/
def seedMix : UInt64 := 0x9e3779b97f4a7c15

/-- A run that was refused, or came to a report. -/
abbrev Verdict := Except ConfigError (RunResult × Option Shortfall)

/-- One run of a program on the standard table, for the runner's number of ticks. -/
def simulate (runner : Runner) (config : NetworkConfig) (program : Except Breach Bytecode)
    (router : Router) (seed : UInt64) : Except Breach (Except ConfigError RunResult) := do
  let program ← program
  match Network.build .standard config (fun _ => program.program) router Seeded.source with
  | .error error => return .error error
  | .ok network =>
    let (result, _) ← network.run runner.maxTicks (network.initial (Seeded.new seed) ())
    return .ok result

/-- An election must not fail and must leave every node with the greatest number of a node. -/
def checkConverged (result : RunResult) : Option Shortfall :=
  match result.failureCause with
  | some cause => some (.runFailed cause)
  | none =>
    let leader := Cell.ofCount (result.nodes.length - 1)
    let ids := result.symbolValues SymbolTable.standard.nodeId
    if ids.all (· == leader) then none else some (.notConverged ids leader)

/-- A silent run takes all its ticks, in each of which every node is idle, and sends nothing. -/
def checkSilent (maxTicks : Nat) (result : RunResult) : Option Shortfall :=
  match result.failureCause with
  | some cause => some (.runFailed cause)
  | none =>
    if result.ticksRun ≠ maxTicks then some (.endedEarly result.ticksRun maxTicks)
    else if result.idleCounts.any (· != result.ticksRun) then
      some (.notIdle result.idleCounts result.ticksRun)
    else if result.stats.messagesSent ≠ 0 then some (.messagesSent result.stats.messagesSent)
    else none

/-- The run must fail for want of the only buffer. -/
def checkExhausted (result : RunResult) : Option Shortfall :=
  match result.failureCause with
  | some (.resourceExhausted 1) => none
  | some cause => some (.wrongCause cause)
  | none => some .poolSufficed

/-- The end that the scenario about faults must come to. -/
def expectedFault : RunOutcome :=
  .failed faultTick 0 (.programFault .divisionByZero)

/-- The run must come to the expected fault. -/
def checkFault (result : RunResult) : Option Shortfall :=
  if result.outcome = expectedFault then none
  else some (.wrongOutcome expectedFault result.outcome)

/-- A report with the judgement of a check. -/
def judge (check : RunResult → Option Shortfall) (result : Except ConfigError RunResult) :
    Verdict :=
  result.map fun report => (report, check report)

/-- Two runs with different seeds, where every message travels equally long. They must be the same,
and the first must converge. -/
def fixedDelay (runner : Runner) : Except Breach Verdict := do
  let config := { runner.config with minDelay := runner.config.maxDelay }
  let election := Bytecode.leaderElection .standard
  match ← runner.simulate config election Router.ring runner.seed with
  | .error error => return .error error
  | .ok first =>
    match ← runner.simulate config election Router.ring (runner.seed ^^^ seedMix) with
    | .error error => return .error error
    | .ok second =>
      return .ok (first, if first = second then checkConverged first else some .diverged)

/-- The runs of a scenario and what they showed. -/
def verdict (runner : Runner) : Scenario → Except Breach Verdict
  | .ringElection => do
    let result ← runner.simulate runner.config (Bytecode.leaderElection .standard) Router.ring
      runner.seed
    return judge checkConverged result
  | .broadcastElection => do
    let result ← runner.simulate runner.config (Bytecode.leaderElectionOnChange .standard)
      Router.broadcast runner.seed
    return judge checkConverged result
  | .silent => do
    let result ← runner.simulate runner.config (.ok Bytecode.silent) Router.broadcast runner.seed
    return judge (checkSilent runner.maxTicks) result
  | .poolExhaustion => do
    let config :=
      { runner.config with nodeCount := max runner.config.nodeCount 2, capacity := 1 }
    let result ← runner.simulate config (Bytecode.flood .standard) Router.ring runner.seed
    return judge checkExhausted result
  | .programFault => do
    let result ← runner.simulate runner.config (Bytecode.faultAt .standard faultTick) Router.ring
      runner.seed
    return judge checkFault result
  | .fixedDelay => runner.fixedDelay

/-- Runs a scenario. -/
def run (runner : Runner) (scenario : Scenario) : Except Breach ScenarioResult := do
  match ← runner.verdict scenario with
  | .ok (result, shortfall) => return ⟨scenario, runner.seed, some result, shortfall⟩
  | .error error => return ⟨scenario, runner.seed, none, some (.rejected error)⟩

/-- Runs scenarios one after another. -/
def runEach (runner : Runner) (scenarios : List Scenario) : Except Breach (List ScenarioResult) :=
  scenarios.mapM runner.run

end Runner

end Lockstep
