import Lockstep.Network.Report
import Lockstep.Network.Config
import Lockstep.Text

/-!
Why a scenario did not pass.
-/
namespace Lockstep

/-- A fault as a value is shown. -/
def Fault.show : Fault → String
  | .writeProtected symbol => "WriteProtected(SymbolId(" ++ toString symbol ++ "))"
  | .unknownSymbol symbol => "UnknownSymbol(SymbolId(" ++ toString symbol ++ "))"
  | .stackUnderflow => "StackUnderflow"
  | .stackOverflow => "StackOverflow"
  | .divisionByZero => "DivisionByZero"
  | .invalidJump target => "InvalidJump(" ++ toString target ++ ")"
  | .budgetExhausted budget => "BudgetExhausted(" ++ toString budget ++ ")"
  | .custom reason => "Custom(" ++ quoted reason ++ ")"

/-- A cause as a value is shown. -/
def FailureCause.show : FailureCause → String
  | .programFault fault => "ProgramFault(" ++ fault.show ++ ")"
  | .resourceExhausted capacity =>
    "ResourceExhausted \x7b capacity: " ++ toString capacity ++ " \x7d"

/-- The end of a run as a value is shown. -/
def RunOutcome.show : RunOutcome → String
  | .completed => "Completed"
  | .failed tick node cause =>
    "Failed \x7b tick: " ++ toString tick ++ ", node: " ++ toString node ++ ", cause: " ++
      cause.show ++ " \x7d"

/-- Why a scenario did not pass. -/
inductive Shortfall where
  /-- The settings were refused, so that there was no run. -/
  | rejected (error : ConfigError)
  | runFailed (cause : FailureCause)
  /-- Some node ended with a number other than the leader's. -/
  | notConverged (ids : List Cell) (leader : Cell)
  | endedEarly (ticksRun maxTicks : Nat)
  /-- A node that had nothing to do was not idle in every tick. -/
  | notIdle (idle : List Nat) (ticksRun : Nat)
  | messagesSent (count : Nat)
  | wrongCause (cause : FailureCause)
  | poolSufficed
  | wrongOutcome (expected got : RunOutcome)
  /-- Two runs that should be the same were not. -/
  | diverged
  deriving DecidableEq

/-- The wording of a shortfall. -/
def Shortfall.message : Shortfall → String
  | .rejected error => "invalid network configuration: " ++ error.message
  | .runFailed cause => "run failed: " ++ cause.message
  | .notConverged ids leader =>
    "ids " ++ bracketed (ids.map fun id => toString id.toInt) ++ " did not converge on " ++
      toString leader.toInt
  | .endedEarly ticksRun maxTicks =>
    "ran " ++ toString ticksRun ++ " of " ++ toString maxTicks ++ " ticks"
  | .notIdle idle ticksRun =>
    "idle counts " ++ bracketed (idle.map toString) ++ " != " ++ toString ticksRun
  | .messagesSent count => toString count ++ " messages sent"
  | .wrongCause cause => "wrong failure cause: " ++ cause.message
  | .poolSufficed => "run completed without exhausting the pool"
  | .wrongOutcome expected got => "expected " ++ expected.show ++ ", got " ++ got.show
  | .diverged => "runs with different seeds diverged"

end Lockstep
