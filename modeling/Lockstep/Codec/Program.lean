import Lockstep.Fault
import Lockstep.Json.Decode
import Lockstep.Machine.Instr

/-!
Faults and programs as JSON.
-/
namespace Lockstep

open Json

/-- A fault as JSON. -/
def Fault.toJson : Fault → Json
  | .writeProtected symbol => .obj [("WriteProtected", .nat symbol)]
  | .unknownSymbol symbol => .obj [("UnknownSymbol", .nat symbol)]
  | .stackUnderflow => .str "StackUnderflow"
  | .stackOverflow => .str "StackOverflow"
  | .divisionByZero => .str "DivisionByZero"
  | .invalidJump target => .obj [("InvalidJump", .nat target)]
  | .budgetExhausted budget => .obj [("BudgetExhausted", .nat budget)]
  | .custom reason => .obj [("Custom", .str reason)]

/-- The fault of a JSON value. -/
def Fault.ofJson? (json : Json) : Option Fault := do
  let (name, content) ← json.variant?
  match name with
  | "WriteProtected" => carries content nat? .writeProtected
  | "UnknownSymbol" => carries content nat? .unknownSymbol
  | "StackUnderflow" => carriesNothing content .stackUnderflow
  | "StackOverflow" => carriesNothing content .stackOverflow
  | "DivisionByZero" => carriesNothing content .divisionByZero
  | "InvalidJump" => carries content nat? .invalidJump
  | "BudgetExhausted" => carries content nat? .budgetExhausted
  | "Custom" => carries content str? .custom
  | _ => none

/-- An instruction as JSON. -/
def Instr.toJson : Instr → Json
  | .push word => .obj [("Push", .cell word)]
  | .load symbol => .obj [("Load", .nat symbol)]
  | .loadNext symbol => .obj [("LoadNext", .nat symbol)]
  | .store symbol => .obj [("Store", .nat symbol)]
  | .nodeIndex => .str "NodeIndex"
  | .dup => .str "Dup"
  | .pop => .str "Pop"
  | .swap => .str "Swap"
  | .add => .str "Add"
  | .sub => .str "Sub"
  | .mul => .str "Mul"
  | .div => .str "Div"
  | .mod => .str "Mod"
  | .max => .str "Max"
  | .min => .str "Min"
  | .eq => .str "Eq"
  | .lt => .str "Lt"
  | .not => .str "Not"
  | .jump target => .obj [("Jump", .nat target)]
  | .jumpIfZero target => .obj [("JumpIfZero", .nat target)]
  | .send => .str "Send"
  | .halt => .str "Halt"

/-- The instruction of a JSON value. -/
def Instr.ofJson? (json : Json) : Option Instr := do
  let (name, content) ← json.variant?
  match name with
  | "Push" => carries content cell? .push
  | "Load" => carries content nat? .load
  | "LoadNext" => carries content nat? .loadNext
  | "Store" => carries content nat? .store
  | "NodeIndex" => carriesNothing content .nodeIndex
  | "Dup" => carriesNothing content .dup
  | "Pop" => carriesNothing content .pop
  | "Swap" => carriesNothing content .swap
  | "Add" => carriesNothing content .add
  | "Sub" => carriesNothing content .sub
  | "Mul" => carriesNothing content .mul
  | "Div" => carriesNothing content .div
  | "Mod" => carriesNothing content .mod
  | "Max" => carriesNothing content .max
  | "Min" => carriesNothing content .min
  | "Eq" => carriesNothing content .eq
  | "Lt" => carriesNothing content .lt
  | "Not" => carriesNothing content .not
  | "Jump" => carries content nat? .jump
  | "JumpIfZero" => carries content nat? .jumpIfZero
  | "Send" => carriesNothing content .send
  | "Halt" => carriesNothing content .halt
  | _ => none

/-- A program as JSON. -/
def Bytecode.toJson (program : Bytecode) : Json :=
  .obj [("code", .list Instr.toJson program.code.toList), ("budget", .nat program.budget)]

/-- The program of a JSON value. -/
def Bytecode.ofJson? (json : Json) : Option Bytecode := do
  guard (json.isRecord .namedOrListed 2)
  let code ← json.required 0 "code" (list? Instr.ofJson?)
  let budget ← json.required 1 "budget" nat?
  return ⟨code.toArray, budget⟩

end Lockstep
