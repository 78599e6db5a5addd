import Lockstep.Codec.Run
import Lockstep.Proofs.Codec.Program

/-!
Settings and reports are kept by their documents, given that their counts are words.
-/
namespace Lockstep

open Json

/-- Every setting is a word. -/
structure NetworkConfig.InWords (config : NetworkConfig) : Prop where
  nodeCount : config.nodeCount < wordCount
  minDelay : config.minDelay < wordCount
  maxDelay : config.maxDelay < wordCount
  capacity : config.capacity < wordCount
  quiescence : ∀ ticks ∈ config.quiescence, ticks < wordCount

theorem NetworkConfig.kept {config : NetworkConfig} (words : config.InWords) :
    Kept toJson ofJson? config := by
  have nodeCount := kept_nat words.nodeCount
  have minDelay := kept_nat words.minDelay
  have maxDelay := kept_nat words.maxDelay
  have capacity := kept_nat words.capacity
  have quiescence : Kept (option nat) (option? nat?) config.quiescence :=
    kept_option (fun ticks given => kept_nat (words.quiescence ticks given)) fun _ _ => nofun
  refine ⟨plain_member nodeCount.plain <| plain_member minDelay.plain <|
    plain_member maxDelay.plain <| plain_member capacity.plain <|
      plain_member quiescence.plain plain_empty, ?_⟩
  rw [toJson, ofJson?]
  exact made_of_withDefault nodeCount rfl <| made_of_withDefault minDelay rfl <|
    made_of_withDefault maxDelay rfl <| made_of_withDefault capacity rfl <|
      made_of_withDefault quiescence rfl rfl

/-- Every count that the cause carries is a word. -/
def FailureCause.InWords : FailureCause → Prop
  | .programFault fault => fault.InWords
  | .resourceExhausted capacity => capacity < wordCount

theorem FailureCause.kept {cause : FailureCause} (words : cause.InWords) (form : RecordForm) :
    Kept toJson (ofJson? form) cause := by
  cases cause with
  | programFault fault => exact kept_variant (Fault.kept words) rfl (fun _ => rfl) rfl
  | resourceExhausted capacity =>
    have size : Kept nat nat? capacity := kept_nat words
    have carried : Kept (fun capacity => obj [("capacity", nat capacity)]) (capacityOfJson? form)
        capacity := by
      refine ⟨plain_member size.plain plain_empty, ?_⟩
      rw [capacityOfJson?]
      exact made_of_form rfl (required_eq size rfl)
    exact kept_variant carried rfl (fun _ => rfl) rfl

/-- Every count that the end of the run carries is a word. -/
def RunOutcome.InWords : RunOutcome → Prop
  | .completed => True
  | .failed tick node cause => tick < wordCount ∧ node < wordCount ∧ cause.InWords

theorem RunOutcome.kept {outcome : RunOutcome} (words : outcome.InWords) (form : RecordForm) :
    Kept toJson (ofJson? form) outcome := by
  cases outcome with
  | completed => exact ⟨.str _, rfl⟩
  | failed tick node cause =>
    have tickKept := kept_nat words.1
    have nodeKept := kept_nat words.2.1
    have causeKept := FailureCause.kept words.2.2 form
    -- What is carried is a record of its own, made of the three.
    have carried : Kept (fun _ => obj [("tick", nat tick), ("node", nat node),
        ("cause", cause.toJson)]) (failureOfJson? form) (.failed tick node cause) := by
      refine ⟨plain_member tickKept.plain <| plain_member nodeKept.plain <|
        plain_member causeKept.plain plain_empty, ?_⟩
      rw [failureOfJson?]
      exact made_of_form rfl <| made_of_required tickKept rfl <|
        made_of_required nodeKept rfl <| made_of_required causeKept rfl rfl
    exact kept_variant carried rfl (fun _ => rfl) rfl

/-- Every count in the report of the node is a word. -/
structure NodeReport.InWords (report : NodeReport) : Prop where
  index : report.index < wordCount
  idleStepCount : report.idleStepCount < wordCount
  messagesSent : report.messagesSent < wordCount
  messagesReceived : report.messagesReceived < wordCount

theorem NodeReport.kept {report : NodeReport} (words : report.InWords) :
    Kept toJson ofJson? report := by
  have index := kept_nat words.index
  have finalState : Kept (list cell) (list? cell?) report.finalState.toList :=
    kept_list fun word _ => kept_cell word
  have idleStepCount := kept_nat words.idleStepCount
  have messagesSent := kept_nat words.messagesSent
  have messagesReceived := kept_nat words.messagesReceived
  have halted := kept_bool report.halted
  refine ⟨plain_member index.plain <| plain_member finalState.plain <|
    plain_member idleStepCount.plain <| plain_member messagesSent.plain <|
      plain_member messagesReceived.plain <| plain_member halted.plain plain_empty, ?_⟩
  rw [toJson, ofJson?]
  exact made_of_form rfl <| made_of_required index rfl <| made_of_required finalState rfl <|
    made_of_required idleStepCount rfl <| made_of_required messagesSent rfl <|
      made_of_required messagesReceived rfl <| made_of_required halted rfl rfl

/-- Every statistic is a word. -/
structure RunStats.InWords (stats : RunStats) : Prop where
  messagesSent : stats.messagesSent < wordCount
  messagesDelivered : stats.messagesDelivered < wordCount
  messagesDropped : stats.messagesDropped < wordCount
  peakInFlight : stats.peakInFlight < wordCount
  idleTicks : stats.idleTicks < wordCount
  consecutiveIdleTicks : stats.consecutiveIdleTicks < wordCount

theorem RunStats.kept {stats : RunStats} (words : stats.InWords) : Kept toJson ofJson? stats := by
  have messagesSent := kept_nat words.messagesSent
  have messagesDelivered := kept_nat words.messagesDelivered
  have messagesDropped := kept_nat words.messagesDropped
  have peakInFlight := kept_nat words.peakInFlight
  have idleTicks := kept_nat words.idleTicks
  have consecutiveIdleTicks := kept_nat words.consecutiveIdleTicks
  refine ⟨plain_member messagesSent.plain <| plain_member messagesDelivered.plain <|
    plain_member messagesDropped.plain <| plain_member peakInFlight.plain <|
      plain_member idleTicks.plain <| plain_member consecutiveIdleTicks.plain plain_empty, ?_⟩
  rw [toJson, ofJson?]
  exact made_of_form rfl <| made_of_required messagesSent rfl <|
    made_of_required messagesDelivered rfl <| made_of_required messagesDropped rfl <|
      made_of_required peakInFlight rfl <| made_of_required idleTicks rfl <|
        made_of_required consecutiveIdleTicks rfl rfl

/-- Every count in the report is a word. -/
structure RunResult.InWords (result : RunResult) : Prop where
  outcome : result.outcome.InWords
  ticksRun : result.ticksRun < wordCount
  nodes : ∀ report ∈ result.nodes, report.InWords
  stats : result.stats.InWords

theorem RunResult.kept {result : RunResult} (words : result.InWords) (form : RecordForm) :
    Kept toJson (ofJson? form) result := by
  have outcome := RunOutcome.kept words.outcome form
  have ticksRun := kept_nat words.ticksRun
  have nodes : Kept (list NodeReport.toJson) (list? NodeReport.ofJson?) result.nodes :=
    kept_list fun report member => NodeReport.kept (words.nodes report member)
  have stats := RunStats.kept words.stats
  refine ⟨plain_member outcome.plain <| plain_member ticksRun.plain <|
    plain_member nodes.plain <| plain_member stats.plain plain_empty, ?_⟩
  rw [toJson, ofJson?]
  exact made_of_form rfl <| made_of_required outcome rfl <| made_of_required ticksRun rfl <|
    made_of_required nodes rfl <| made_of_required stats rfl rfl

end Lockstep
