import Lockstep.Machine.Instr
import Lockstep.Program.Basic

/-!
Steps of the stack machine.

The machine has a stack of at most `Machine.stackDepth` words. An instruction that cannot be
carried out stops it with a fault.
-/
namespace Lockstep

namespace Machine

/-- The state of a call: where it is, its stack with the top first, and whether it has asked for a
send. -/
structure Frame where
  pc : Nat
  stack : List Cell
  sent : Bool
  deriving DecidableEq

/-- The frame a call starts with. -/
def Frame.initial : Frame :=
  ⟨0, [], false⟩

/-- How a call goes on. -/
inductive Progress where
  | running (frame : Frame)
  | stopped (signal : Signal)
  deriving DecidableEq

/-- Puts a word on a stack that has room for it. -/
def push (word : Cell) (stack : List Cell) : Except Fault (List Cell) :=
  if stack.length < stackDepth then .ok (word :: stack) else .error .stackOverflow

/-- Replaces the two topmost words by what `operate` makes of them. -/
def binary (operate : Cell → Cell → Except Fault Cell) : List Cell → Except Fault (List Cell)
  | top :: below :: rest => (operate below top).bind (push · rest)
  | _ => .error .stackUnderflow

/-- Refuses to divide by zero. -/
def nonzero (operate : Cell → Cell → Cell) (a b : Cell) : Except Fault Cell :=
  if b = 0 then .error .divisionByZero else .ok (operate a b)

/-- Goes on behind the current instruction with another stack, or stops at the fault. -/
def Frame.proceed (frame : Frame) : Except Fault (List Cell) → Progress
  | .ok stack => .running { frame with pc := frame.pc + 1, stack }
  | .error fault => .stopped (.fault fault)

/-- Goes on at `target`, which may be the end of the code but not past it. -/
def Frame.jump (frame : Frame) (length target : Nat) (stack : List Cell) : Progress :=
  if length < target then .stopped (.fault (.invalidJump target))
  else .running { frame with pc := target, stack }

/-- Instructions that use the stack alone, or the number of the node. -/
def onStack (place : Place) : Instr → List Cell → Except Fault (List Cell)
  | .push word, stack => push word stack
  | .nodeIndex, stack => push (Cell.ofCount place.index) stack
  | .dup, top :: rest => push top (top :: rest)
  | .pop, _ :: rest => .ok rest
  | .swap, top :: below :: rest => .ok (below :: top :: rest)
  | .add, stack => binary (fun a b => .ok (a + b)) stack
  | .sub, stack => binary (fun a b => .ok (a - b)) stack
  | .mul, stack => binary (fun a b => .ok (a * b)) stack
  | .div, stack => binary (nonzero (· / ·)) stack
  | .mod, stack => binary (nonzero (· % ·)) stack
  | .max, stack => binary (fun a b => .ok (if a < b then b else a)) stack
  | .min, stack => binary (fun a b => .ok (if b < a then b else a)) stack
  | .eq, stack => binary (fun a b => .ok (Cell.ofBool (a == b))) stack
  | .lt, stack => binary (fun a b => .ok (Cell.ofBool (a < b))) stack
  | .not, top :: rest => .ok (Cell.ofBool (top == 0) :: rest)
  | _, _ => .error .stackUnderflow

/-- Carries out one instruction of a program of `length` instructions. -/
def execute (place : Place) (length : Nat) (instr : Instr) (frame : Frame) :
    Interaction Progress :=
  match instr with
  | .load symbol => .read symbol fun word => .done (frame.proceed (push word frame.stack))
  | .loadNext symbol =>
    .readNext symbol fun word => .done (frame.proceed (push word frame.stack))
  | .store symbol =>
    match frame.stack with
    | [] => .done (.stopped (.fault .stackUnderflow))
    | top :: rest =>
      .write symbol top fun
        | some fault => .done (.stopped (.fault fault))
        | none => .done (frame.proceed (.ok rest))
  | .jump target => .done (frame.jump length target frame.stack)
  | .jumpIfZero target =>
    match frame.stack with
    | [] => .done (.stopped (.fault .stackUnderflow))
    | top :: rest =>
      .done (if top = 0 then frame.jump length target rest else frame.proceed (.ok rest))
  | .send => .requestSend fun _ => .done ({ frame with sent := true }.proceed (.ok frame.stack))
  | .halt => .done (.stopped .halt)
  | instr => .done (frame.proceed (onStack place instr frame.stack))

/-- How a call that reaches the end of its code ends. -/
def Frame.finish (frame : Frame) : Signal :=
  if frame.sent then .send else .continue

end Machine

end Lockstep
