import Lockstep.Codec.Run
import Lockstep.Json.Printer
import Lockstep.Json.Reader
import Lockstep.Scenario.Runner

/-!
Exports: a document for each run, with what was run, its settings and everything it reported.
-/
namespace Lockstep

open Json

/-- An exported run. -/
structure RunExport where
  scenario : String
  seed : UInt64
  config : NetworkConfig
  maxTicks : Nat
  passed : Bool := false
  failureReason : Option String := none
  fitness : Option Float := none
  result : Option RunResult := none

namespace RunExport

/-- The export of a scenario's result. -/
def ofScenario (runner : Runner) (result : ScenarioResult) : RunExport where
  scenario := result.scenario.name
  seed := result.seed
  config := runner.config
  maxTicks := runner.maxTicks
  passed := result.passed
  failureReason := result.failureReason
  result := result.run

/-- A member that is left out when there is no value for it. -/
def memberIf {α : Type} (name : String) (encode : α → Json) :
    Option α → List (String × Json)
  | none => []
  | some value => [(name, encode value)]

/-- An export as JSON. -/
def toJson (document : RunExport) : Json :=
  .obj ([
      ("scenario", .str document.scenario),
      ("seed", .nat document.seed.toNat),
      ("config", document.config.toJson),
      ("max_ticks", .nat document.maxTicks),
      ("passed", .bool document.passed)] ++
    memberIf "failure_reason" .str document.failureReason ++
    memberIf "fitness" .float document.fitness ++
    memberIf "result" RunResult.toJson document.result)

/-- The export of a JSON value. -/
def ofJson? (json : Json) : Option RunExport := do
  guard (json.isRecord .namedOrListed 8)
  let scenario ← json.required 0 "scenario" str?
  let seed ← json.required 1 "seed" nat?
  let config ← json.required 2 "config" NetworkConfig.ofJson?
  let maxTicks ← json.required 3 "max_ticks" nat?
  let passed ← json.required 4 "passed" bool?
  let failureReason ← json.optional 5 "failure_reason" str?
  let fitness ← json.optional 6 "fitness" float?
  let result ← json.optional 7 "result" (RunResult.ofJson? .namedOrListed)
  return { scenario, seed := UInt64.ofNat seed, config, maxTicks, passed, failureReason, fitness
           result }

/-- The document of an export. -/
def render (document : RunExport) : String :=
  document.toJson.pretty

/-- The export of a document. -/
def parse? (text : String) : Option RunExport :=
  Json.parse? text >>= ofJson?

/-- Two exports say the same. Their fitness is compared as numbers are. -/
def agrees (a b : RunExport) : Bool :=
  a.scenario == b.scenario && a.seed == b.seed && a.config == b.config &&
    a.maxTicks == b.maxTicks && a.passed == b.passed && a.failureReason == b.failureReason &&
    a.fitness == b.fitness && a.result == b.result

end RunExport

end Lockstep
