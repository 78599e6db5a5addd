import Lockstep.Proofs.Machine.Abacus
import Lockstep.Proofs.Program.Play
import Lockstep.Proofs.Table.Created

/-!
The stack machine on a row of cells, with every access checked.

A rack is a row of `stackDepth` cells and the height up to which they are in use. What stands above
is stale. All that could go wrong with it is checked: the cells of the row, the height, the
instruction fetched, the number of the next one, the divisor. No check ever fails
(`Rack.continueFrom_eq`), because the cells in use always show the stack of the machine
(`Rack.Shows`). `machine_as_documented` puts the rack and the abacus together.
-/
namespace Lockstep

namespace Machine

/-- A row of cells, in use up to a height. -/
structure Rack where
  cells : Cells
  height : Nat

namespace Rack

/-- Why a call ends on a rack: with a signal, or because a check has failed. -/
inductive Stop where
  | ended (signal : Signal)
  | broken (breach : Breach)

/-- The program's own mistake. -/
def fail {α : Type} (fault : Fault) : Except Stop α :=
  .error (.ended (.fault fault))

/-- An access whose failure breaks the call. -/
def checked {α : Type} (access : Except Breach α) : Except Stop α :=
  access.mapError .broken

/-- A rack that is not in use. -/
def empty : Rack :=
  ⟨.zeros stackDepth, 0⟩

/-- Puts a word on the rack. -/
def push (word : Cell) (rack : Rack) : Except Stop Rack :=
  if rack.height = stackDepth then fail .stackOverflow
  else do
    let cells ← checked (rack.cells.put rack.height word)
    return ⟨cells, rack.height + 1⟩

/-- Takes the word on top, whose cell is stale from then on. -/
def pop (rack : Rack) : Except Stop (Cell × Rack) :=
  if rack.height = 0 then fail .stackUnderflow
  else do
    let height ← checked (Breach.checkedSub rack.height 1)
    return (← checked (rack.cells.fetch height), { rack with height })

/-- The word on top, which stays in use. -/
def peek (rack : Rack) : Except Stop Cell :=
  if rack.height = 0 then fail .stackUnderflow
  else do
    let top ← checked (Breach.checkedSub rack.height 1)
    checked (rack.cells.fetch top)

/-- Takes the top and the word below it, and answers them the other way round. -/
def pop2 (rack : Rack) : Except Stop ((Cell × Cell) × Rack) := do
  let (top, rack) ← rack.pop
  let (second, rack) ← rack.pop
  return ((second, top), rack)

/-- Replaces the top and the word below it by what an operation makes of them. -/
def binary (operate : Cell → Cell → Except Stop Cell) (rack : Rack) : Except Stop Rack := do
  let ((second, top), rack) ← rack.pop2
  rack.push (← operate second top)

/-- A quotient or a remainder, which there is none of for the divisor zero. -/
def divided (operate : Cell → Cell → Cell) (second top : Cell) : Except Breach Cell :=
  if top = 0 then .error .wordOverflow else .ok (operate second top)

/-- A quotient or a remainder. The divisor zero is the program's own mistake. -/
def nonzero (operate : Cell → Cell → Cell) (second top : Cell) : Except Stop Cell :=
  if top = 0 then fail .divisionByZero else checked (divided operate second top)

/-- Instructions that use the stack alone, or the number of the node. -/
def onRack (place : Place) : Instr → Rack → Except Stop Rack
  | .push word, rack => rack.push word
  | .nodeIndex, rack => rack.push (Cell.ofCount place.index)
  | .dup, rack => do rack.push (← rack.peek)
  | .pop, rack => do
    let (_, rack) ← rack.pop
    return rack
  | .swap, rack => do
    let ((second, top), rack) ← rack.pop2
    (← rack.push top).push second
  | .add, rack => rack.binary fun a b => .ok (a + b)
  | .sub, rack => rack.binary fun a b => .ok (a - b)
  | .mul, rack => rack.binary fun a b => .ok (a * b)
  | .div, rack => rack.binary (nonzero (· / ·))
  | .mod, rack => rack.binary (nonzero (· % ·))
  | .max, rack => rack.binary fun a b => .ok (if a < b then b else a)
  | .min, rack => rack.binary fun a b => .ok (if b < a then b else a)
  | .eq, rack => rack.binary fun a b => .ok (Cell.ofBool (a == b))
  | .lt, rack => rack.binary fun a b => .ok (Cell.ofBool (a < b))
  | .not, rack => do
    let (top, rack) ← rack.pop
    rack.push (Cell.ofBool (top == 0))
  | _, _ => fail .stackUnderflow

/-- The state of a call on a rack. -/
structure Frame where
  pc : Nat
  rack : Rack
  sent : Bool

/-- Where to go on. The end of a program of `length` instructions is a place to jump to, and what
lies behind it is not. -/
def jump (length target : Nat) : Except Stop Nat :=
  if length < target then fail (.invalidJump target) else .ok target

/-- Carries out one instruction of a program of `length` instructions. The one behind it is number
`next`. -/
def execute (place : Place) (length next : Nat) (instr : Instr) (frame : Frame) :
    Interaction (Except Stop Frame) :=
  match instr with
  | .load symbol =>
    .read symbol fun word => .done ((frame.rack.push word).map (⟨next, ·, frame.sent⟩))
  | .loadNext symbol =>
    .readNext symbol fun word => .done ((frame.rack.push word).map (⟨next, ·, frame.sent⟩))
  | .store symbol =>
    match frame.rack.pop with
    | .error stop => .done (.error stop)
    | .ok (word, rack) =>
      .write symbol word fun
        | some fault => .done (fail fault)
        | none => .done (.ok ⟨next, rack, frame.sent⟩)
  | .jump target => .done ((jump length target).map (⟨·, frame.rack, frame.sent⟩))
  | .jumpIfZero target => .done do
    let (word, rack) ← frame.rack.pop
    (if word = 0 then jump length target else .ok next).map (⟨·, rack, frame.sent⟩)
  | .send => .requestSend fun _ => .done (.ok ⟨next, frame.rack, true⟩)
  | .halt => .done (.error (.ended .halt))
  | instr => .done ((onRack place instr frame.rack).map (⟨next, ·, frame.sent⟩))

/-- The instruction at a position, and the number of the one behind it. -/
def fetch (code : Array Instr) (pc : Nat) : Except Breach (Instr × Nat) :=
  match code[pc]? with
  | none => .error .outOfBounds
  | some instr => if pc + 1 < wordCount then .ok (instr, pc + 1) else .error .wordOverflow

/-- Runs the program from a frame, with `left` instructions of its budget left. -/
def continueFrom (program : Bytecode) (place : Place) :
    (left : Nat) → Frame → Interaction (Except Breach Signal)
  | left, frame =>
    if frame.pc < program.code.size then
      match left with
      | 0 => .done (.ok (.fault (.budgetExhausted program.budget)))
      | left + 1 =>
        match fetch program.code frame.pc with
        | .error breach => .done (.error breach)
        | .ok (instr, next) =>
          (execute place program.code.size next instr frame).bind fun
            | .ok frame => continueFrom program place left frame
            | .error (.ended signal) => .done (.ok signal)
            | .error (.broken breach) => .done (.error breach)
    else .done (.ok (if frame.sent then .send else .continue))

/-- One call of the program. -/
def call (program : Bytecode) (place : Place) : Interaction (Except Breach Signal) :=
  continueFrom program place program.budget ⟨0, empty, false⟩

/-! ### The cells in use show the stack -/

/-- The cells in use are the words of the stack, with the top at the end. -/
structure Shows (rack : Rack) (stack : List Cell) : Prop where
  size : rack.cells.size = stackDepth
  height : rack.height = stack.length
  words : rack.cells.toList.take stack.length = stack.reverse

/-- The same has come of the rack as of the stack. -/
inductive Tells : Except Stop Rack → Except Fault (List Cell) → Prop where
  | stack {rack : Rack} {stack : List Cell} : rack.Shows stack → Tells (.ok rack) (.ok stack)
  | fault {fault : Fault} : Tells (fail fault) (.error fault)

variable {rack : Rack} {stack rest : List Cell} {top word : Cell} {place : Place} {instr : Instr}

theorem shows_empty : empty.Shows [] where
  size := Array.size_replicate
  height := rfl
  words := rfl

theorem Shows.fits (shows : rack.Shows stack) : stack.length ≤ stackDepth := by
  have length := congrArg List.length shows.words
  have whole : rack.cells.toList.length = stackDepth := shows.size
  rw [List.length_take, List.length_reverse] at length
  omega

theorem push_room (shows : rack.Shows stack) (room : stack.length < stackDepth) (word : Cell) :
    ∃ after, rack.push word = .ok after ∧ after.Shows (word :: stack) := by
  have below : ¬ rack.height = stackDepth := shows.height ▸ Nat.ne_of_lt room
  have inside : rack.height < rack.cells.size := by
    rw [shows.height, shows.size]
    exact room
  refine ⟨⟨rack.cells.setIfInBounds rack.height word, rack.height + 1⟩, ?_, ?_, ?_, ?_⟩
  · rw [push, if_neg below, Cells.put, if_pos inside]
    rfl
  · exact Array.size_setIfInBounds.trans shows.size
  · exact congrArg (· + 1) shows.height
  · rw [Array.toList_setIfInBounds, List.length_cons, List.reverse_cons, ← shows.words,
      ← shows.height, List.take_add_one, List.take_set_of_le (Nat.le_refl _),
      List.getElem?_set_self inside]
    rfl

theorem push_tells (shows : rack.Shows stack) :
    Tells (rack.push word) (Machine.push word stack) := by
  by_cases full : stack.length = stackDepth
  · rw [push, if_pos (shows.height.trans full), Machine.push, if_neg (by omega)]
    exact .fault
  · have room : stack.length < stackDepth := Nat.lt_of_le_of_ne shows.fits full
    obtain ⟨after, pushed, shows⟩ := push_room shows room word
    rw [pushed, Machine.push, if_pos room]
    exact .stack shows

theorem pop_nil (shows : rack.Shows []) : rack.pop = fail .stackUnderflow :=
  if_pos shows.height

theorem peek_nil (shows : rack.Shows []) : rack.peek = fail .stackUnderflow :=
  if_pos shows.height

/-- The word at the end of the cells in use is the top. -/
theorem Shows.fetch_top (shows : rack.Shows (top :: rest)) :
    rack.cells.fetch rest.length = .ok top := by
  have found : rack.cells[rest.length]? = some top := by
    have last := congrArg (fun words : List Cell => words[rest.length]?) shows.words
    simpa using last
  rw [Cells.fetch, found]

theorem pop_cons (shows : rack.Shows (top :: rest)) :
    ∃ after, rack.pop = .ok (top, after) ∧ after.Shows rest := by
  refine ⟨⟨rack.cells, rest.length⟩, ?_, shows.size, rfl, ?_⟩
  · have height := shows.height
    rw [pop, height, if_neg (by simp), Breach.checkedSub, if_pos (by simp), List.length_cons,
      Nat.add_sub_cancel]
    change checked (rack.cells.fetch rest.length) >>= _ = _
    rw [shows.fetch_top]
    rfl
  · have shorter := congrArg (List.take rest.length) shows.words
    rwa [List.take_take, List.length_cons, Nat.min_eq_left (Nat.le_succ _), List.reverse_cons,
      ← List.length_reverse, List.take_left, List.length_reverse] at shorter

theorem peek_cons (shows : rack.Shows (top :: rest)) : rack.peek = .ok top := by
  have height := shows.height
  rw [peek, height, if_neg (by simp), Breach.checkedSub, if_pos (by simp), List.length_cons,
    Nat.add_sub_cancel]
  change checked (rack.cells.fetch rest.length) = _
  rw [shows.fetch_top]
  rfl

theorem pop2_nil (shows : rack.Shows []) : rack.pop2 = fail .stackUnderflow := by
  rw [pop2, pop_nil shows]
  rfl

theorem pop2_single (shows : rack.Shows [top]) : rack.pop2 = fail .stackUnderflow := by
  obtain ⟨after, popped, shows⟩ := pop_cons shows
  rw [pop2, popped]
  change after.pop >>= _ = _
  rw [pop_nil shows]
  rfl

theorem pop2_cons {second : Cell} (shows : rack.Shows (top :: second :: rest)) :
    ∃ after, rack.pop2 = .ok ((second, top), after) ∧ after.Shows rest := by
  obtain ⟨between, first, shows⟩ := pop_cons shows
  obtain ⟨after, popped, shows⟩ := pop_cons shows
  refine ⟨after, ?_, shows⟩
  rw [pop2, first]
  change between.pop >>= _ = _
  rw [popped]
  rfl

/-- Both operations come to the same word or fault. -/
inductive Agrees : Except Stop Cell → Except Fault Cell → Prop where
  | word {word : Cell} : Agrees (.ok word) (.ok word)
  | fault {fault : Fault} : Agrees (fail fault) (.error fault)

theorem nonzero_agrees (operate : Cell → Cell → Cell) (second top : Cell) :
    Agrees (nonzero operate second top) (Machine.nonzero operate second top) := by
  unfold nonzero Machine.nonzero divided
  by_cases zero : top = 0
  · rw [if_pos zero, if_pos zero]
    exact .fault
  · rw [if_neg zero, if_neg zero, if_neg zero]
    exact .word

theorem binary_tells {operate : Cell → Cell → Except Stop Cell}
    {known : Cell → Cell → Except Fault Cell}
    (agrees : ∀ second top, Agrees (operate second top) (known second top))
    (shows : rack.Shows stack) : Tells (rack.binary operate) (Machine.binary known stack) := by
  match stack with
  | [] =>
    rw [binary, pop2_nil shows]
    exact .fault
  | [_] =>
    rw [binary, pop2_single shows]
    exact .fault
  | top :: second :: rest =>
    obtain ⟨after, popped, shows⟩ := pop2_cons shows
    rw [binary, popped, Machine.binary]
    change Tells (operate second top >>= after.push) _
    have both := agrees second top
    revert both
    generalize operate second top = answer, known second top = expected
    rintro (_ | _)
    · exact push_tells shows
    · exact .fault

theorem total_tells (operate : Cell → Cell → Cell) (shows : rack.Shows stack) :
    Tells (rack.binary fun a b => .ok (operate a b))
      (Machine.binary (fun a b => .ok (operate a b)) stack) :=
  binary_tells (fun _ _ => .word) shows

theorem onRack_tells (place : Place) (instr : Instr) (shows : rack.Shows stack) :
    Tells (onRack place instr rack) (onStack place instr stack) := by
  cases instr with
  | push word | nodeIndex => exact push_tells shows
  | dup =>
    change Tells (rack.peek >>= rack.push) _
    cases stack with
    | nil =>
      rw [peek_nil shows]
      exact .fault
    | cons top rest =>
      rw [peek_cons shows]
      exact push_tells shows
  | pop =>
    change Tells (rack.pop >>= fun (_, rack) => .ok rack) _
    cases stack with
    | nil =>
      rw [pop_nil shows]
      exact .fault
    | cons top rest =>
      obtain ⟨after, popped, shows⟩ := pop_cons shows
      rw [popped]
      exact .stack shows
  | swap =>
    change Tells (rack.pop2 >>= fun ((second, top), rack) => rack.push top >>= (·.push second)) _
    match stack with
    | [] =>
      rw [pop2_nil shows]
      exact .fault
    | [_] =>
      rw [pop2_single shows]
      exact .fault
    | top :: second :: rest =>
      have fits := shows.fits
      simp only [List.length_cons] at fits
      obtain ⟨after, popped, shows⟩ := pop2_cons shows
      obtain ⟨below, pushed, shows⟩ := push_room shows (by omega) top
      obtain ⟨above, last, shows⟩ := push_room shows (by simp only [List.length_cons]; omega) second
      rw [popped]
      change Tells (after.push top >>= (·.push second)) _
      rw [pushed]
      change Tells (below.push second) _
      rw [last]
      exact .stack shows
  | not =>
    change Tells (rack.pop >>= fun (top, rack) => rack.push (Cell.ofBool (top == 0))) _
    cases stack with
    | nil =>
      rw [pop_nil shows]
      exact .fault
    | cons top rest =>
      have fits := shows.fits
      obtain ⟨after, popped, shows⟩ := pop_cons shows
      obtain ⟨above, pushed, shows⟩ := push_room shows fits (Cell.ofBool (top == 0))
      rw [popped]
      change Tells (after.push (Cell.ofBool (top == 0))) _
      rw [pushed]
      exact .stack shows
  | div | mod => exact binary_tells (nonzero_agrees _) shows
  | add => exact total_tells (· + ·) shows
  | sub => exact total_tells (· - ·) shows
  | mul => exact total_tells (· * ·) shows
  | max => exact total_tells (fun a b => if a < b then b else a) shows
  | min => exact total_tells (fun a b => if b < a then b else a) shows
  | eq => exact total_tells (fun a b => Cell.ofBool (a == b)) shows
  | lt => exact total_tells (fun a b => Cell.ofBool (a < b)) shows
  | load symbol | loadNext symbol | store symbol | jump target | jumpIfZero target | send
  | halt => exact .fault

/-! ### Calls on a rack -/

/-- A call goes on in the same way on the rack as on the stack. -/
inductive Goes : Except Stop Frame → Progress → Prop where
  | running {rack : Rack} {stack : List Cell} {pc : Nat} {sent : Bool} : rack.Shows stack →
      Goes (.ok ⟨pc, rack, sent⟩) (.running ⟨pc, stack, sent⟩)
  | stopped {signal : Signal} : Goes (.error (.ended signal)) (.stopped signal)

variable {pc length : Nat} {sent : Bool}

theorem Tells.goes {result : Except Stop Rack} {known : Except Fault (List Cell)}
    (tells : Tells result known) (stack : List Cell) :
    Goes (result.map (⟨pc + 1, ·, sent⟩)) (Machine.Frame.proceed ⟨pc, stack, sent⟩ known) := by
  cases tells with
  | stack shows => exact .running shows
  | fault => exact .stopped

theorem jump_goes (shows : rack.Shows rest) (length target : Nat) (stack : List Cell) :
    Goes ((jump length target).map (⟨·, rack, sent⟩))
      (Machine.Frame.jump ⟨pc, stack, sent⟩ length target rest) := by
  unfold jump Machine.Frame.jump
  by_cases far : length < target
  · rw [if_pos far, if_pos far]
    exact .stopped
  · rw [if_neg far, if_neg far]
    exact .running shows

theorem branch_goes (shows : rack.Shows rest) (length target : Nat) (word : Cell)
    (stack : List Cell) :
    Goes ((if word = 0 then jump length target else .ok (pc + 1)).map (⟨·, rack, sent⟩))
      (if word = 0 then Machine.Frame.jump ⟨pc, stack, sent⟩ length target rest
        else Machine.Frame.proceed ⟨pc, stack, sent⟩ (.ok rest)) := by
  by_cases zero : word = 0
  · rw [if_pos zero, if_pos zero]
    exact jump_goes shows length target stack
  · rw [if_neg zero, if_neg zero]
    exact .running shows

/-- An instruction does the same on the rack as on the stack, if what comes after it does. -/
theorem execute_bind {γ : Type} {first : Except Stop Frame → Interaction γ}
    {second : Progress → Interaction γ} (instr : Instr) (shows : rack.Shows stack)
    (same : ∀ {result progress}, Goes result progress → first result = second progress) :
    (execute place length (pc + 1) instr ⟨pc, rack, sent⟩).bind first =
      (Machine.execute place length instr ⟨pc, stack, sent⟩).bind second := by
  cases instr with
  | load symbol =>
    exact congrArg (Interaction.read symbol)
      (funext fun word => same ((push_tells shows).goes stack))
  | loadNext symbol =>
    exact congrArg (Interaction.readNext symbol)
      (funext fun word => same ((push_tells shows).goes stack))
  | store symbol =>
    cases stack with
    | nil =>
      rw [execute, pop_nil shows]
      exact same .stopped
    | cons top rest =>
      obtain ⟨after, popped, shows⟩ := pop_cons shows
      rw [execute, popped]
      refine congrArg (Interaction.write symbol top) (funext fun refused => ?_)
      cases refused with
      | none => exact same (.running shows)
      | some fault => exact same .stopped
  | jump target => exact same (jump_goes shows length target stack)
  | jumpIfZero target =>
    cases stack with
    | nil =>
      rw [execute, pop_nil shows]
      exact same .stopped
    | cons top rest =>
      obtain ⟨after, popped, shows⟩ := pop_cons shows
      rw [execute, popped, Machine.execute]
      exact same (branch_goes shows length target top (top :: rest))
  | send => exact congrArg Interaction.requestSend (funext fun _ => same (.running shows))
  | halt => exact same .stopped
  | _ => exact same ((onRack_tells place _ shows).goes stack)

theorem continueFrom_ended (program : Bytecode) (place : Place) (left : Nat)
    (ended : program.code.size ≤ pc) :
    continueFrom program place left ⟨pc, rack, sent⟩ =
      (program.continueFrom place left ⟨pc, stack, sent⟩).bind
        fun signal => .done (.ok signal) := by
  unfold continueFrom Bytecode.continueFrom
  rw [if_neg (Nat.not_lt.mpr ended), Array.getElem?_eq_none ended]
  rfl

/-- A call that goes on inside its code never fails a check, and does what the machine does. -/
theorem continueFrom_eq (program : Bytecode) (place : Place) (left : Nat)
    (sized : program.code.size < wordCount) (shows : rack.Shows stack) :
    continueFrom program place left ⟨pc, rack, sent⟩ =
      (program.continueFrom place left ⟨pc, stack, sent⟩).bind
        fun signal => .done (.ok signal) := by
  induction left generalizing pc rack stack sent with
  | zero =>
    by_cases inside : pc < program.code.size
    · unfold continueFrom Bytecode.continueFrom
      rw [if_pos inside, Array.getElem?_eq_getElem inside]
      rfl
    · exact continueFrom_ended program place 0 (Nat.le_of_not_lt inside)
  | succ left ih =>
    by_cases inside : pc < program.code.size
    · have fetched : fetch program.code pc = .ok (program.code[pc], pc + 1) := by
        rw [fetch, Array.getElem?_eq_getElem inside]
        exact if_pos (Nat.lt_of_le_of_lt inside sized)
      unfold continueFrom Bytecode.continueFrom
      rw [if_pos inside, fetched, Array.getElem?_eq_getElem inside, Interaction.bind_assoc]
      refine execute_bind _ shows fun goes => ?_
      cases goes with
      | running shows => exact ih shows
      | stopped => rfl
    · exact continueFrom_ended program place (left + 1) (Nat.le_of_not_lt inside)

theorem call_eq (program : Bytecode) (place : Place) (sized : program.code.size < wordCount) :
    call program place = (program.call place).bind fun signal => .done (.ok signal) :=
  continueFrom_eq program place program.budget sized shows_empty

end Rack

end Machine

namespace Bytecode

open Machine (Abacus Rack)

/-- What the stack machine is documented to do with a program and the memory of its node. -/
structure Documented (program : Bytecode) (place : Place) (table : SymbolTable) (memory : Memory)
    (requested : Bool) : Prop where
  /-- A call does what it does on the abacus, whatever its reads and writes are answered. -/
  reference : program.call place = Abacus.call program place
  /-- It never leaves its code, and its stack is never too deep. -/
  inside : ∀ frame, program.Reaches place frame → frame.Inside program.code.size
  /-- On a row of cells it does the same, and no check of an access, of the number of the next
  instruction or of a divisor fails. -/
  checked : program.code.size < wordCount →
    Rack.call program place = (program.call place).bind fun signal => .done (.ok signal)
  /-- On the node's memory all three come to the same signal by the same effects. -/
  answers : ∃ signal effects left,
    (program.call place).recorded.run table memory requested = .ok ((signal, effects), left) ∧
    (Abacus.call program place).recorded.run table memory requested =
      .ok ((signal, effects), left) ∧
    (program.code.size < wordCount →
      (Rack.call program place).recorded.run table memory requested =
        .ok ((.ok signal, effects), left))
  /-- Each fault of an instruction has its own reason. -/
  underflow : ∀ instr stack, Abacus.fault? program.code.size instr stack = some .stackUnderflow ↔
    stack.length < Abacus.operands instr
  overflow : ∀ instr stack, Abacus.fault? program.code.size instr stack = some .stackOverflow ↔
    Abacus.grows instr ∧ stack.length = Machine.stackDepth
  division : ∀ instr stack, Abacus.fault? program.code.size instr stack = some .divisionByZero ↔
    Abacus.divides instr ∧ 2 ≤ stack.length ∧ stack.head? = some 0
  jump : ∀ instr stack target,
    Abacus.fault? program.code.size instr stack = some (.invalidJump target) ↔
      Abacus.target? instr stack = some target ∧ program.code.size < target
  /-- The quotient of the least word by minus one wraps, and its remainder is zero. -/
  least : Abacus.combine .div (-negativeCount) (-1) = -negativeCount ∧
    Abacus.combine .mod (-negativeCount) (-1) = 0

/-- The stack machine is the documented one. -/
theorem machine_as_documented (program : Bytecode) (place : Place) {table : SymbolTable}
    {memory : Memory} (valid : table.validate = .ok ()) (fits : memory.Fits table)
    (requested : Bool) : Documented program place table memory requested := by
  have reference := Abacus.call_eq program place
  have checked := Rack.call_eq program place
  refine ⟨reference.symm, fun frame => Reaches.inside, checked, ?answers,
    fun _ _ => Abacus.fault?_eq_underflow, fun _ _ => Abacus.fault?_eq_overflow,
    fun _ _ => Abacus.fault?_eq_division, fun _ _ _ => Abacus.fault?_eq_jump, by decide⟩
  case answers =>
    have valid := SymbolTable.validate_eq_ok.mp valid
    have result := Interaction.run_eq valid (program.call place).recorded fits requested
    refine ⟨_, _, _, result, reference ▸ result, fun sized => ?_⟩
    rw [checked sized, Interaction.run_recorded_bind, result]
    refine congrArg (fun record => Except.ok ((Except.ok _, record), _)) ?_
    exact List.append_nil _

/-- The least word is divided by minus one, the remainder of the same is stored, and the jump that
follows leads too far. -/
theorem machine_as_documented_least :
    SymbolTable.standard.validate = .ok () ∧ (Memory.new .standard).Fits .standard ∧
      Documented (.ofCode #[.push Int64.minValue, .push (-1), .div, .store 3,
        .push Int64.minValue, .push (-1), .mod, .dup, .store 7, .jumpIfZero 40])
        ⟨1, 4⟩ .standard (.new .standard) false ∧
      ((Bytecode.call (.ofCode #[.push Int64.minValue, .push (-1), .div, .store 3,
        .push Int64.minValue, .push (-1), .mod, .dup, .store 7, .jumpIfZero 40])
          ⟨1, 4⟩).recorded.run .standard (.new .standard) false).toOption.map Prod.fst =
        some (.fault (.invalidJump 40), [.write 3 Int64.minValue none, .write 7 0 none]) := by
  have valid : SymbolTable.standard.validate = .ok () :=
    SymbolTable.validate_eq_ok.mpr (SymbolTable.valid_create {} [])
  have fits := Memory.fits_new .standard
  exact ⟨valid, fits, machine_as_documented _ _ valid fits false, by decide +kernel⟩

end Bytecode

end Lockstep
