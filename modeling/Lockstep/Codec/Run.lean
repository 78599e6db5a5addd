import Lockstep.Codec.Program
import Lockstep.Network.Config
import Lockstep.Network.Report

/-!
The settings of a network and the report of a run as JSON.
-/
namespace Lockstep

open Json

/-- Settings as JSON. -/
def NetworkConfig.toJson (config : NetworkConfig) : Json :=
  .obj [
    ("node_count", .nat config.nodeCount),
    ("min_delay", .nat config.minDelay),
    ("max_delay", .nat config.maxDelay),
    ("max_pending_messages", .nat config.capacity),
    ("quiescence_ticks", .option .nat config.quiescence)]

/-- The settings of a JSON value. What is missing has its default; an array may end early. -/
def NetworkConfig.ofJson? (json : Json) : Option NetworkConfig := do
  match json with
  | .obj _ => pure ()
  | .arr items => guard (items.length ≤ 5)
  | _ => none
  let usual : NetworkConfig := {}
  let nodeCount ← json.withDefault 0 "node_count" usual.nodeCount nat?
  let minDelay ← json.withDefault 1 "min_delay" usual.minDelay nat?
  let maxDelay ← json.withDefault 2 "max_delay" usual.maxDelay nat?
  let capacity ← json.withDefault 3 "max_pending_messages" usual.capacity nat?
  let quiescence ← json.withDefault 4 "quiescence_ticks" usual.quiescence (option? nat?)
  return { nodeCount, minDelay, maxDelay, capacity, quiescence }

/-- A cause as JSON. -/
def FailureCause.toJson : FailureCause → Json
  | .programFault fault => .obj [("ProgramFault", fault.toJson)]
  | .resourceExhausted capacity =>
    .obj [("ResourceExhausted", .obj [("capacity", .nat capacity)])]

/-- The capacity that a cause carries. -/
def FailureCause.capacityOfJson? (form : RecordForm) (json : Json) : Option Nat := do
  guard (json.isRecord form 1)
  json.required 0 "capacity" nat?

/-- The cause of a JSON value. -/
def FailureCause.ofJson? (form : RecordForm) (json : Json) : Option FailureCause := do
  let (name, content) ← json.variant?
  match name with
  | "ProgramFault" => carries content Fault.ofJson? .programFault
  | "ResourceExhausted" => carries content (capacityOfJson? form) .resourceExhausted
  | _ => none

/-- The end of a run as JSON. -/
def RunOutcome.toJson : RunOutcome → Json
  | .completed => .str "Completed"
  | .failed tick node cause =>
    .obj [("Failed", .obj [("tick", .nat tick), ("node", .nat node), ("cause", cause.toJson)])]

/-- What a failed run carries. -/
def RunOutcome.failureOfJson? (form : RecordForm) (json : Json) : Option RunOutcome := do
  guard (json.isRecord form 3)
  let tick ← json.required 0 "tick" nat?
  let node ← json.required 1 "node" nat?
  let cause ← json.required 2 "cause" (FailureCause.ofJson? form)
  return .failed tick node cause

/-- The end of a run of a JSON value. -/
def RunOutcome.ofJson? (form : RecordForm) (json : Json) : Option RunOutcome := do
  let (name, content) ← json.variant?
  match name with
  | "Completed" => carriesNothing content .completed
  | "Failed" => carries content (failureOfJson? form) id
  | _ => none

/-- The report of a node as JSON. -/
def NodeReport.toJson (report : NodeReport) : Json :=
  .obj [
    ("index", .nat report.index),
    ("final_state", .list .cell report.finalState.toList),
    ("idle_step_count", .nat report.idleStepCount),
    ("messages_sent", .nat report.messagesSent),
    ("messages_received", .nat report.messagesReceived),
    ("halted", .bool report.halted)]

/-- The report of a node of a JSON value. -/
def NodeReport.ofJson? (json : Json) : Option NodeReport := do
  guard (json.isRecord .namedOrListed 6)
  let index ← json.required 0 "index" nat?
  let finalState ← json.required 1 "final_state" (list? cell?)
  let idleStepCount ← json.required 2 "idle_step_count" nat?
  let messagesSent ← json.required 3 "messages_sent" nat?
  let messagesReceived ← json.required 4 "messages_received" nat?
  let halted ← json.required 5 "halted" bool?
  return { index, finalState := finalState.toArray, idleStepCount, messagesSent
           messagesReceived, halted }

/-- Statistics as JSON. -/
def RunStats.toJson (stats : RunStats) : Json :=
  .obj [
    ("messages_sent", .nat stats.messagesSent),
    ("messages_delivered", .nat stats.messagesDelivered),
    ("messages_dropped", .nat stats.messagesDropped),
    ("peak_in_flight", .nat stats.peakInFlight),
    ("idle_ticks", .nat stats.idleTicks),
    ("consecutive_idle_ticks", .nat stats.consecutiveIdleTicks)]

/-- The statistics of a JSON value. -/
def RunStats.ofJson? (json : Json) : Option RunStats := do
  guard (json.isRecord .namedOrListed 6)
  let messagesSent ← json.required 0 "messages_sent" nat?
  let messagesDelivered ← json.required 1 "messages_delivered" nat?
  let messagesDropped ← json.required 2 "messages_dropped" nat?
  let peakInFlight ← json.required 3 "peak_in_flight" nat?
  let idleTicks ← json.required 4 "idle_ticks" nat?
  let consecutiveIdleTicks ← json.required 5 "consecutive_idle_ticks" nat?
  return { messagesSent, messagesDelivered, messagesDropped, peakInFlight, idleTicks
           consecutiveIdleTicks }

/-- The report of a run as JSON. -/
def RunResult.toJson (result : RunResult) : Json :=
  .obj [
    ("outcome", result.outcome.toJson),
    ("ticks_run", .nat result.ticksRun),
    ("nodes", .list NodeReport.toJson result.nodes),
    ("stats", result.stats.toJson)]

/-- The report of a run of a JSON value. -/
def RunResult.ofJson? (form : RecordForm) (json : Json) : Option RunResult := do
  guard (json.isRecord .namedOrListed 4)
  let outcome ← json.required 0 "outcome" (RunOutcome.ofJson? form)
  let ticksRun ← json.required 1 "ticks_run" nat?
  let nodes ← json.required 2 "nodes" (list? NodeReport.ofJson?)
  let stats ← json.required 3 "stats" RunStats.ofJson?
  return { outcome, ticksRun, nodes, stats }

end Lockstep
