import Lockstep.Proofs.Machine.Frames
import Lockstep.Proofs.Program.Trace

/-!
The stack machine as it is documented, computing with whole numbers.

An abacus has a stack of integers of any size. Tables say what an instruction takes from it, what it
makes of that, where it goes on and when it faults. A call does the same on the abacus as on the
machine, whatever its reads and writes are answered (`Abacus.call_eq`).
-/
namespace Lockstep.Machine

/-- The state of a call on the abacus: where it is, its stack with the top first, and whether it has
asked for a send. -/
structure Abacus where
  pc : Nat
  stack : List Int
  sent : Bool

namespace Abacus

/-- How many words an instruction takes from the stack. -/
def operands : Instr → Nat
  | .store _ | .dup | .pop | .not | .jumpIfZero _ => 1
  | .swap | .add | .sub | .mul | .div | .mod | .max | .min | .eq | .lt => 2
  | .push _ | .load _ | .loadNext _ | .nodeIndex | .jump _ | .send | .halt => 0

/-- The instruction leaves one word more than it has found. -/
def grows : Instr → Bool
  | .push _ | .load _ | .loadNext _ | .nodeIndex | .dup => true
  | _ => false

/-- The instruction divides by the top of the stack. -/
def divides : Instr → Bool
  | .div | .mod => true
  | _ => false

/-- The instruction asks for a send. -/
def asks : Instr → Bool
  | .send => true
  | _ => false

/-- The signed word of 64 bits that a number wraps to. -/
def reduce (number : Int) : Int :=
  number.bmod wordCount

/-- What a two-operand instruction makes of the word below the top and the top. -/
def combine : Instr → Int → Int → Int
  | .add, second, top => reduce (second + top)
  | .sub, second, top => reduce (second - top)
  | .mul, second, top => reduce (second * top)
  | .div, second, top => reduce (second.tdiv top)
  | .mod, second, top => second.tmod top
  | .max, second, top => max second top
  | .min, second, top => min second top
  | .eq, second, top => if second = top then 1 else 0
  | .lt, second, top => if second < top then 1 else 0
  | _, _, top => top

/-- The stack an instruction leaves, when what it has read is `answer`. -/
def leaves (place : Place) (answer : Int) : Instr → List Int → List Int
  | .push word, stack => word.toInt :: stack
  | .load _, stack | .loadNext _, stack => answer :: stack
  | .nodeIndex, stack => reduce place.index :: stack
  | .dup, top :: rest => top :: top :: rest
  | .pop, _ :: rest | .store _, _ :: rest | .jumpIfZero _, _ :: rest => rest
  | .swap, top :: second :: rest => second :: top :: rest
  | .not, top :: rest => (if top = 0 then 1 else 0) :: rest
  | .jump _, stack | .send, stack | .halt, stack => stack
  | instr, top :: second :: rest => combine instr second top :: rest
  | _, stack => stack

/-- Where the instruction jumps to, if it does. -/
def target? : Instr → List Int → Option Nat
  | .jump target, _ => some target
  | .jumpIfZero target, top :: _ => if top = 0 then some target else none
  | _, _ => none

/-- Why an instruction cannot be carried out in code of so many instructions. -/
def fault? (length : Nat) (instr : Instr) (stack : List Int) : Option Fault :=
  if stack.length < operands instr then some .stackUnderflow
  else if grows instr ∧ stack.length = stackDepth then some .stackOverflow
  else if divides instr ∧ stack.head? = some 0 then some .divisionByZero
  else ((target? instr stack).filter (length < ·)).map .invalidJump

/-- What an instruction reads. It does so before anything else. -/
def look : Instr → Interaction Int
  | .load symbol => .read symbol fun word => .done word.toInt
  | .loadNext symbol => .readNext symbol fun word => .done word.toInt
  | _ => .done 0

/-- What an instruction does to the node. Answers the signal that it ends the call with, if it
does. -/
def act : Instr → List Int → Interaction (Option Signal)
  | .store symbol, top :: _ =>
    .write symbol (Int64.ofInt top) fun refused => .done (refused.map .fault)
  | .send, _ => .requestSend fun _ => .done none
  | .halt, _ => .done (some .halt)
  | _, _ => .done none

/-- The state behind an instruction that has read `answer`. -/
def next (place : Place) (instr : Instr) (abacus : Abacus) (answer : Int) : Abacus where
  pc := (target? instr abacus.stack).getD (abacus.pc + 1)
  stack := leaves place answer instr abacus.stack
  sent := abacus.sent || asks instr

/-- Carries out an instruction that has read `answer`. -/
def perform (place : Place) (length : Nat) (instr : Instr) (abacus : Abacus) (answer : Int) :
    Interaction (Except Signal Abacus) :=
  match fault? length instr abacus.stack with
  | some fault => .done (.error (.fault fault))
  | none => (act instr abacus.stack).bind fun
    | some signal => .done (.error signal)
    | none => .done (.ok (abacus.next place instr answer))

/-- Carries out one instruction of a program of `length` instructions. -/
def step (place : Place) (length : Nat) (instr : Instr) (abacus : Abacus) :
    Interaction (Except Signal Abacus) :=
  (look instr).bind (perform place length instr abacus)

/-- Runs the program from a state of the abacus, with `left` instructions of its budget left. -/
def continueFrom (program : Bytecode) (place : Place) :
    (left : Nat) → Abacus → Interaction Signal
  | left, abacus =>
    match program.code[abacus.pc]? with
    | none => .done (if abacus.sent then .send else .continue)
    | some instr =>
      match left with
      | 0 => .done (.fault (.budgetExhausted program.budget))
      | left + 1 => (step place program.code.size instr abacus).bind fun
        | .ok abacus => continueFrom program place left abacus
        | .error signal => .done signal

/-- One call of the program. -/
def call (program : Bytecode) (place : Place) : Interaction Signal :=
  continueFrom program place program.budget ⟨0, [], false⟩

/-! ### What the machine does, in numbers -/

/-- The numbers on a stack of words. -/
def numbers (stack : List Cell) : List Int :=
  stack.map Int64.toInt

/-- A frame as the abacus shows it. -/
def ofFrame (frame : Frame) : Abacus where
  pc := frame.pc
  stack := numbers frame.stack
  sent := frame.sent

/-- How a call goes on, as the abacus shows it. -/
def ofProgress : Progress → Except Signal Abacus
  | .running frame => .ok (ofFrame frame)
  | .stopped signal => .error signal

variable {place : Place} {length : Nat} {instr : Instr} {frame : Frame} {stack : List Cell}
  {answer : Int}

@[simp] theorem length_numbers : (numbers stack).length = stack.length :=
  List.length_map _

/-- The stack that an instruction leaves on the abacus, or the fault it stops at. -/
def outcome (place : Place) (length : Nat) (answer : Int) (instr : Instr) (stack : List Int) :
    Except Fault (List Int) :=
  match fault? length instr stack with
  | some fault => .error fault
  | none => .ok (leaves place answer instr stack)

/-! ### When the abacus faults -/

theorem fault?_eq_underflow {stack : List Int} :
    fault? length instr stack = some .stackUnderflow ↔ stack.length < operands instr := by
  constructor
  · intro same
    unfold fault? at same
    repeat' split at same
    all_goals first | assumption | simp at same
  · exact fun few => if_pos few

theorem operands_le (instr : Instr) : operands instr ≤ 2 := by
  cases instr <;> simp [operands]

theorem fault?_eq_overflow {stack : List Int} : fault? length instr stack = some .stackOverflow ↔
    grows instr ∧ stack.length = stackDepth := by
  constructor
  · intro same
    unfold fault? at same
    repeat' split at same
    all_goals first | assumption | simp at same
  · rintro ⟨pushed, full⟩
    have few := operands_le instr
    have deep : 2 ≤ stackDepth := by decide
    rw [fault?, if_neg (by omega), if_pos ⟨pushed, full⟩]

theorem tables_of_divides (divided : divides instr) :
    operands instr = 2 ∧ grows instr = false ∧ ∀ stack, target? instr stack = none := by
  cases instr with
  | div | mod => exact ⟨rfl, rfl, fun _ => rfl⟩
  | _ => cases divided

theorem fault?_eq_division {stack : List Int} : fault? length instr stack = some .divisionByZero ↔
    divides instr ∧ 2 ≤ stack.length ∧ stack.head? = some 0 := by
  constructor
  · intro same
    unfold fault? at same
    split at same
    · cases same
    · rename_i enough
      repeat' split at same
      · cases same
      · rename_i both
        obtain ⟨two, -, -⟩ := tables_of_divides both.1
        exact ⟨both.1, by omega, both.2⟩
      · simp at same
  · rintro ⟨divided, enough, zero⟩
    obtain ⟨two, shrinks, -⟩ := tables_of_divides divided
    rw [fault?, if_neg (by omega), if_neg (by simp [shrinks]), if_pos ⟨divided, zero⟩]

theorem tables_of_target {stack : List Int} {target : Nat}
    (jumps : target? instr stack = some target) :
    operands instr ≤ stack.length ∧ grows instr = false ∧ divides instr = false := by
  cases instr with
  | jump target => exact ⟨Nat.zero_le _, rfl, rfl⟩
  | jumpIfZero target =>
    cases stack with
    | nil => cases jumps
    | cons top rest => exact ⟨Nat.le_add_left 1 _, rfl, rfl⟩
  | _ => cases jumps

/-- The last thing that can go wrong is a jump. -/
theorem fault?_jump {stack : List Int} (enough : operands instr ≤ stack.length)
    (room : grows instr = false ∨ stack.length ≠ stackDepth)
    (divisor : divides instr = false ∨ stack.head? ≠ some 0) :
    fault? length instr stack = ((target? instr stack).filter (length < ·)).map .invalidJump := by
  have roomy : ¬ (grows instr ∧ stack.length = stackDepth) := by
    rintro ⟨pushed, full⟩
    exact room.elim (absurd · (ne_false_of_eq_true pushed)) (absurd full)
  have divisible : ¬ (divides instr ∧ stack.head? = some 0) := by
    rintro ⟨divided, zero⟩
    exact divisor.elim (absurd · (ne_false_of_eq_true divided)) (absurd zero)
  rw [fault?, if_neg (Nat.not_lt.mpr enough), if_neg roomy, if_neg divisible]

theorem fault?_eq_jump {stack : List Int} {target : Nat} :
    fault? length instr stack = some (.invalidJump target) ↔
      target? instr stack = some target ∧ length < target := by
  constructor
  · intro same
    unfold fault? at same
    repeat' split at same
    all_goals simp_all
  · rintro ⟨jumps, far⟩
    obtain ⟨enough, shrinks, whole⟩ := tables_of_target jumps
    rw [fault?_jump enough (.inl shrinks) (.inl whole), jumps, Option.filter,
      if_pos (decide_eq_true far)]
    rfl

/-- An instruction that pushes a word. -/
theorem push_shown {word : Cell} (fits : stack.length ≤ stackDepth)
    (enough : operands instr ≤ stack.length) (pushed : grows instr)
    (whole : divides instr = false)
    (stays : target? instr (numbers stack) = none)
    (pushes : leaves place answer instr (numbers stack) = word.toInt :: numbers stack) :
    (push word stack).map numbers = outcome place length answer instr (numbers stack) := by
  have enough : operands instr ≤ (numbers stack).length := length_numbers.symm ▸ enough
  unfold push outcome
  by_cases full : stack.length = stackDepth
  · rw [fault?_eq_overflow.mpr ⟨pushed, length_numbers.trans full⟩, if_neg (by omega)]
    rfl
  · rw [fault?_jump enough (.inr (length_numbers.symm ▸ full)) (.inl whole), stays, pushes,
      if_pos (by omega)]
    rfl

theorem underflow_shown (few : stack.length < operands instr) :
    (Except.error .stackUnderflow).map numbers =
      outcome place length answer instr (numbers stack) := by
  rw [outcome, fault?_eq_underflow.mpr (length_numbers.symm ▸ few)]
  rfl

/-- An instruction that leaves no more than it finds and goes on behind itself. -/
theorem plain_shown {rest : List Cell} (enough : operands instr ≤ stack.length)
    (shrinks : grows instr = false)
    (divisor : divides instr = false ∨ (numbers stack).head? ≠ some 0)
    (stays : target? instr (numbers stack) = none)
    (left : leaves place answer instr (numbers stack) = numbers rest) :
    (Except.ok rest).map numbers = outcome place length answer instr (numbers stack) := by
  have enough : operands instr ≤ (numbers stack).length := length_numbers.symm ▸ enough
  rw [outcome, fault?_jump enough (.inl shrinks) divisor, stays, left]
  rfl

/-- The instruction replaces two words by what `combine` makes of them. -/
def Combines : Instr → Prop
  | .add | .sub | .mul | .div | .mod | .max | .min | .eq | .lt => True
  | _ => False

theorem Combines.tables (combines : Combines instr) (place : Place) (answer : Int) :
    operands instr = 2 ∧ grows instr = false ∧ (∀ stack, target? instr stack = none) ∧
      ∀ top second rest, leaves place answer instr (top :: second :: rest) =
        combine instr second top :: rest := by
  cases instr with
  | add | sub | mul | div | mod | max | min | eq | lt =>
    exact ⟨rfl, rfl, fun _ => rfl, fun _ _ _ => rfl⟩
  | _ => cases combines

theorem binary_shown {operate : Cell → Cell → Except Fault Cell}
    (fits : stack.length ≤ stackDepth) (combines : Combines instr)
    (agrees : ∀ second top : Cell, (operate second top).map Int64.toInt =
      if divides instr ∧ top.toInt = 0 then .error .divisionByZero
      else .ok (combine instr second.toInt top.toInt)) :
    (binary operate stack).map numbers = outcome place length answer instr (numbers stack) := by
  obtain ⟨two, shrinks, stays, shape⟩ := combines.tables place answer
  match stack with
  | [] | [_] => exact underflow_shown (by simp [two])
  | top :: second :: rest =>
    have enough : operands instr ≤ (numbers (top :: second :: rest)).length := by simp [two]
    have room : rest.length < stackDepth := by
      simp only [List.length_cons] at fits
      omega
    have known := agrees second top
    by_cases zero : divides instr ∧ top.toInt = 0
    · have head : (numbers (top :: second :: rest)).head? = some 0 := congrArg some zero.2
      rw [outcome, fault?_eq_division.mpr ⟨zero.1, two ▸ enough, head⟩]
      rw [if_pos zero] at known
      cases result : operate second top with
      | error fault =>
        rw [result] at known
        cases known
        rw [binary, result]
        rfl
      | ok word =>
        rw [result] at known
        cases known
    · rw [if_neg zero] at known
      cases result : operate second top with
      | error fault =>
        rw [result] at known
        cases known
      | ok word =>
        rw [result] at known
        rw [binary, result, Except.bind, push, if_pos room]
        refine plain_shown (by simp [two]) shrinks ?divisor (stays _) ?left
        case divisor =>
          cases divided : divides instr with
          | false => exact .inl rfl
          | true => exact .inr fun same => zero ⟨divided, Option.some.inj same⟩
        case left =>
          rw [numbers, List.map_cons, List.map_cons, shape, ← Except.ok.inj known]
          rfl

/-- Operations without a fault of their own. -/
theorem total_shown {operate : Cell → Cell → Cell} (whole : divides instr = false)
    (agrees : ∀ second top : Cell,
      (operate second top).toInt = combine instr second.toInt top.toInt) (second top : Cell) :
    (Except.ok (operate second top) : Except Fault Cell).map Int64.toInt =
      if divides instr ∧ top.toInt = 0 then .error .divisionByZero
      else .ok (combine instr second.toInt top.toInt) := by
  rw [if_neg (by simp [whole]), ← agrees]
  rfl

theorem nonzero_shown {operate : Cell → Cell → Cell} (divided : divides instr)
    (agrees : ∀ second top : Cell,
      (operate second top).toInt = combine instr second.toInt top.toInt) (second top : Cell) :
    (nonzero operate second top).map Int64.toInt =
      if divides instr ∧ top.toInt = 0 then .error .divisionByZero
      else .ok (combine instr second.toInt top.toInt) := by
  unfold nonzero
  by_cases zero : top = 0
  · rw [if_pos zero, if_pos ⟨divided, congrArg Int64.toInt zero⟩]
    rfl
  · rw [if_neg zero, if_neg (fun both => zero (Int64.toInt_inj.mp both.2)), ← agrees]
    rfl

theorem toInt_ofCount (count : Nat) : (Cell.ofCount count).toInt = reduce count :=
  Int64.toInt_ofNat'

theorem toInt_ofBool (holds : Bool) : (Cell.ofBool holds).toInt = if holds then 1 else 0 := by
  cases holds <;> rfl

theorem next_shown (frame : Frame) {sent : Bool} {rest : List Cell} {goal : Nat}
    (goes : (target? instr (numbers frame.stack)).getD (frame.pc + 1) = goal)
    (left : leaves place answer instr (numbers frame.stack) = numbers rest)
    (sends : (frame.sent || asks instr) = sent) :
    (ofFrame frame).next place instr answer = ofFrame ⟨goal, rest, sent⟩ := by
  rw [next, ofFrame, goes, left, sends, ofFrame]

theorem perform_shown {result : Except Fault (List Cell)} (silent : asks instr = false)
    (stays : target? instr (numbers frame.stack) = none)
    (acts : act instr (numbers frame.stack) = .done none)
    (shown : result.map numbers = outcome place length answer instr (numbers frame.stack)) :
    perform place length instr (ofFrame frame) answer =
      .done (ofProgress (frame.proceed result)) := by
  unfold outcome at shown
  unfold perform
  change (match fault? length instr (numbers frame.stack) with | some fault => _ | none => _) = _
  cases known : fault? length instr (numbers frame.stack) with
  | some fault =>
    rw [known] at shown
    cases result <;> cases shown
    rfl
  | none =>
    rw [known] at shown
    cases result with
    | error fault => cases shown
    | ok stack =>
      have sends : (frame.sent || asks instr) = frame.sent := by rw [silent, Bool.or_false]
      change ((act instr (numbers frame.stack)).bind _) = _
      rw [acts, Interaction.bind, next_shown frame (congrArg (Option.getD · _) stays)
        (Except.ok.inj shown).symm sends]
      rfl

/-- The instruction uses the stack alone, or the number of the node. -/
def UsesStack : Instr → Prop
  | .load _ | .loadNext _ | .store _ | .jump _ | .jumpIfZero _ | .send | .halt => False
  | _ => True

theorem onStack_shown (uses : UsesStack instr) (fits : stack.length ≤ stackDepth) :
    (onStack place instr stack).map numbers =
      outcome place length answer instr (numbers stack) := by
  cases instr with
  | load symbol | loadNext symbol | store symbol | jump target | jumpIfZero target | send
  | halt => cases uses
  | push word => exact push_shown fits (Nat.zero_le _) rfl rfl rfl rfl
  | nodeIndex =>
    refine push_shown fits (Nat.zero_le _) rfl rfl rfl ?_
    exact congrArg (· :: numbers stack) (toInt_ofCount place.index).symm
  | dup =>
    cases stack with
    | nil => exact underflow_shown Nat.one_pos
    | cons top rest => exact push_shown fits (Nat.le_add_left 1 _) rfl rfl rfl rfl
  | pop =>
    cases stack with
    | nil => exact underflow_shown Nat.one_pos
    | cons top rest => exact plain_shown (Nat.le_add_left 1 _) rfl (.inl rfl) rfl rfl
  | swap =>
    match stack with
    | [] => exact underflow_shown Nat.two_pos
    | [_] => exact underflow_shown Nat.one_lt_two
    | top :: second :: rest => exact plain_shown (Nat.le_add_left 2 _) rfl (.inl rfl) rfl rfl
  | not =>
    cases stack with
    | nil => exact underflow_shown Nat.one_pos
    | cons top rest =>
      refine plain_shown (Nat.le_add_left 1 _) rfl (.inl rfl) rfl ?_
      have negated : (Cell.ofBool (top == 0)).toInt = if top.toInt = 0 then 1 else 0 := by
        simp only [toInt_ofBool, beq_iff_eq, ← Int64.toInt_inj]
        rfl
      exact congrArg (· :: numbers rest) negated.symm
  | add => exact binary_shown fits trivial (total_shown rfl Int64.toInt_add)
  | sub => exact binary_shown fits trivial (total_shown rfl Int64.toInt_sub)
  | mul => exact binary_shown fits trivial (total_shown rfl Int64.toInt_mul)
  | div => exact binary_shown fits trivial (nonzero_shown rfl Int64.toInt_div)
  | mod => exact binary_shown fits trivial (nonzero_shown rfl Int64.toInt_mod)
  | max | min =>
    refine binary_shown fits trivial (total_shown rfl fun second top => ?_)
    simp only [Int64.lt_iff_toInt_lt, combine]
    split <;> omega
  | eq =>
    refine binary_shown fits trivial (total_shown rfl fun second top => ?_)
    simp only [toInt_ofBool, beq_iff_eq, combine, ← Int64.toInt_inj]
  | lt =>
    refine binary_shown fits trivial (total_shown rfl fun second top => ?_)
    simp only [toInt_ofBool, combine, ← Int64.lt_iff_toInt_lt, decide_eq_true_eq]

/-- An instruction that jumps. -/
theorem jump_shown {target : Nat} {rest : List Cell} (silent : asks instr = false)
    (enough : operands instr ≤ frame.stack.length) (shrinks : grows instr = false)
    (whole : divides instr = false) (jumps : target? instr (numbers frame.stack) = some target)
    (acts : act instr (numbers frame.stack) = .done none)
    (left : leaves place answer instr (numbers frame.stack) = numbers rest) :
    perform place length instr (ofFrame frame) answer =
      .done (ofProgress (frame.jump length target rest)) := by
  unfold perform
  change (match fault? length instr (numbers frame.stack) with | some fault => _ | none => _) = _
  rw [fault?_jump (length_numbers.symm ▸ enough) (.inl shrinks) (.inl whole), jumps]
  unfold Frame.jump
  by_cases far : length < target
  · rw [if_pos far, Option.filter, if_pos (decide_eq_true far)]
    rfl
  · have sends : (frame.sent || asks instr) = frame.sent := by rw [silent, Bool.or_false]
    rw [if_neg far, Option.filter, if_neg (by simpa using far)]
    change ((act instr (numbers frame.stack)).bind _) = _
    rw [acts, Interaction.bind, next_shown frame (congrArg (Option.getD · _) jumps) left sends]
    rfl

/-- An instruction does the same on the abacus as on the machine. -/
theorem step_eq (place : Place) (length : Nat) (instr : Instr)
    (fits : frame.stack.length ≤ stackDepth) :
    step place length instr (ofFrame frame) =
      (execute place length instr frame).bind fun progress => .done (ofProgress progress) := by
  obtain ⟨pc, stack, sent⟩ := frame
  cases instr with
  | load symbol =>
    refine congrArg (Interaction.read symbol) (funext fun word => ?_)
    exact perform_shown rfl rfl rfl (push_shown fits (Nat.zero_le _) rfl rfl rfl rfl)
  | loadNext symbol =>
    refine congrArg (Interaction.readNext symbol) (funext fun word => ?_)
    exact perform_shown rfl rfl rfl (push_shown fits (Nat.zero_le _) rfl rfl rfl rfl)
  | store symbol =>
    cases stack with
    | nil => rfl
    | cons top rest =>
      have clear : fault? length (.store symbol) (numbers (top :: rest)) = none :=
        fault?_jump (Nat.le_add_left 1 _) (.inl rfl) (.inl rfl)
      have acts : act (.store symbol) (numbers (top :: rest)) = .write symbol top
          fun refused => .done (refused.map .fault) := by
        rw [numbers, List.map_cons, act, Int64.ofInt_toInt]
      simp only [step, look, Interaction.bind, perform, ofFrame, execute]
      rw [clear, acts]
      refine congrArg (Interaction.write symbol top) (funext fun refused => ?_)
      cases refused with
      | none =>
        exact congrArg (fun state => Interaction.done (Except.ok state))
          (next_shown ⟨pc, top :: rest, sent⟩ rfl rfl (Bool.or_false sent))
      | some fault => rfl
  | jump target => exact jump_shown rfl (Nat.zero_le _) rfl rfl rfl rfl rfl
  | jumpIfZero target =>
    cases stack with
    | nil => rfl
    | cons top rest =>
      by_cases zero : top = 0
      · rw [execute]
        simp only [zero, if_true]
        exact jump_shown rfl (Nat.le_add_left 1 _) rfl rfl rfl rfl rfl
      · have past : top.toInt ≠ 0 := fun same => zero (Int64.toInt_inj.mp same)
        rw [execute]
        simp only [if_neg zero]
        exact perform_shown rfl (if_neg past) rfl
          (plain_shown (Nat.le_add_left 1 _) rfl (.inl rfl) (if_neg past) rfl)
  | send =>
    have clear : fault? length .send (numbers stack) = none :=
      fault?_jump (Nat.zero_le _) (.inl rfl) (.inl rfl)
    simp only [step, look, Interaction.bind, perform, ofFrame, execute]
    rw [clear, act]
    refine congrArg Interaction.requestSend (funext fun _ => ?_)
    exact congrArg (fun state => Interaction.done (Except.ok state))
      (next_shown ⟨pc, stack, sent⟩ rfl rfl (Bool.or_true sent))
  | halt => rfl
  | _ => exact perform_shown rfl rfl rfl (onStack_shown trivial fits)

/-- A call that goes on inside its code does the same on the abacus as on the machine. -/
theorem continueFrom_eq (program : Bytecode) (place : Place) (left : Nat)
    (inside : frame.Inside program.code.size) :
    continueFrom program place left (ofFrame frame) = program.continueFrom place left frame := by
  induction left generalizing frame with
  | zero =>
    unfold continueFrom Bytecode.continueFrom
    change (match program.code[frame.pc]? with | none => _ | some instr => _) = _
    cases program.code[frame.pc]? <;> rfl
  | succ left ih =>
    unfold continueFrom Bytecode.continueFrom
    change (match program.code[frame.pc]? with | none => _ | some instr => _) = _
    cases known : program.code[frame.pc]? with
    | none => rfl
    | some instr =>
      have before := (Array.getElem?_eq_some_iff.mp known).1
      simp only [step_eq place program.code.size instr inside.stack, Interaction.bind_assoc]
      refine Interaction.bind_congr fun progress yields => ?_
      cases progress with
      | running after => exact ih (execute_inside inside before yields)
      | stopped signal => rfl

/-- A call does the same on the abacus as on the machine. -/
theorem call_eq (program : Bytecode) (place : Place) :
    call program place = program.call place := by
  have inside : Frame.initial.Inside program.code.size := ⟨Nat.zero_le _, Nat.zero_le _⟩
  exact continueFrom_eq program place program.budget inside

end Abacus

end Lockstep.Machine
