import Lockstep.Machine.Step

/-!
Calls of the stack machine.

A call carries out one instruction after another until the code ends, an instruction stops it, or
its budget is spent and there are instructions left.
-/
namespace Lockstep

namespace Bytecode

/-- Runs the program from a frame, with `fuel` instructions left to spend. -/
def continueFrom (program : Bytecode) (place : Place) :
    (fuel : Nat) → Machine.Frame → Interaction Signal
  | fuel, frame =>
    match program.code[frame.pc]? with
    | none => .done frame.finish
    | some instr =>
      match fuel with
      | 0 => .done (.fault (.budgetExhausted program.budget))
      | fuel + 1 =>
        (Machine.execute place program.code.size instr frame).bind fun
          | .running frame => program.continueFrom place fuel frame
          | .stopped signal => .done signal

/-- One call of the program. -/
def call (program : Bytecode) (place : Place) : Interaction Signal :=
  program.continueFrom place program.budget .initial

/-- The program as a node runs it. It keeps no state. -/
def program {σ : Type} (bytecode : Bytecode) : Program σ :=
  .ofView bytecode.call

end Bytecode

end Lockstep
