import Lockstep.Buffer

/-!
What a run reports.
-/
namespace Lockstep

/-- Why a run failed. -/
inductive FailureCause where
  | programFault (fault : Fault)
  /-- A message needed a buffer and the pool had none left. -/
  | resourceExhausted (capacity : Nat)
  deriving DecidableEq

/-- The wording of a cause. -/
def FailureCause.message : FailureCause → String
  | .programFault fault => "program fault: " ++ fault.message
  | .resourceExhausted capacity =>
    "message pool exhausted (capacity " ++ toString capacity ++ ")"

/-- The fault behind a cause. -/
def FailureCause.fault? : FailureCause → Option Fault
  | .programFault fault => some fault
  | .resourceExhausted _ => none

/-- How a run ended. -/
inductive RunOutcome where
  | completed
  /-- The first step that failed, by tick and node. -/
  | failed (tick node : Nat) (cause : FailureCause)
  deriving DecidableEq

/-- What a run reports of a node. -/
structure NodeReport where
  index : Nat
  /-- The cells as the node last read them. -/
  finalState : Cells
  idleStepCount : Nat
  messagesSent : Nat
  messagesReceived : Nat
  halted : Bool
  deriving DecidableEq

/-- A cell of the node. Cells it does not have are zero. -/
def NodeReport.value (report : NodeReport) (symbol : SymbolId) : Cell :=
  report.finalState[symbol]?.getD 0

/-- What a run reports of the network as a whole. -/
structure RunStats where
  messagesSent : Nat
  messagesDelivered : Nat
  messagesDropped : Nat
  /-- The greatest number of buffers in use at once. -/
  peakInFlight : Nat
  /-- Ticks in which no node changed. -/
  idleTicks : Nat
  /-- How many of them the run ended with, in a row. -/
  consecutiveIdleTicks : Nat
  deriving DecidableEq

/-- The report of a run. -/
structure RunResult where
  outcome : RunOutcome
  ticksRun : Nat
  nodes : List NodeReport
  stats : RunStats
  deriving DecidableEq

namespace RunResult

/-- The run did not fail. -/
def isCompleted (result : RunResult) : Bool :=
  result.outcome == .completed

/-- Why the run failed, if it did. -/
def failureCause (result : RunResult) : Option FailureCause :=
  match result.outcome with
  | .completed => none
  | .failed _ _ cause => some cause

/-- A cell of every node. -/
def symbolValues (result : RunResult) (symbol : SymbolId) : List Cell :=
  result.nodes.map (·.value symbol)

/-- The idle steps of every node. -/
def idleCounts (result : RunResult) : List Nat :=
  result.nodes.map (·.idleStepCount)

end RunResult

end Lockstep
