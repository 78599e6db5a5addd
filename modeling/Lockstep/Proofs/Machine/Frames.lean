import Lockstep.Machine.Call

/-!
The frames a call goes through.

A call comes from frame to frame by carrying out instructions, whatever its reads and writes are
answered (`Bytecode.Reaches`). No instruction leads out of the code or past the depth of the stack
(`Frame.Inside`), so no call does, and a call ends at one of these frames.
-/
namespace Lockstep

/-- The results an interaction can come to, over all the answers it can get. -/
inductive Interaction.Yields {α : Type} : Interaction α → α → Prop where
  | done (result : α) : Yields (.done result) result
  | read {symbol : SymbolId} {next : Cell → Interaction α} {result : α} (word : Cell) :
      Yields (next word) result → Yields (.read symbol next) result
  | readNext {symbol : SymbolId} {next : Cell → Interaction α} {result : α} (word : Cell) :
      Yields (next word) result → Yields (.readNext symbol next) result
  | write {symbol : SymbolId} {word : Cell} {next : Option Fault → Interaction α} {result : α}
      (refused : Option Fault) : Yields (next refused) result →
      Yields (.write symbol word next) result
  | requestSend {next : Unit → Interaction α} {result : α} :
      Yields (next ()) result → Yields (.requestSend next) result

namespace Interaction

variable {α β : Type} {result answer : α} {symbol : SymbolId} {word : Cell}

@[simp] theorem yields_done : (Interaction.done answer).Yields result ↔ result = answer := by
  constructor
  · rintro ⟨⟩
    rfl
  · rintro rfl
    exact .done _

@[simp] theorem yields_read {next : Cell → Interaction α} :
    (Interaction.read symbol next).Yields result ↔ ∃ word, (next word).Yields result := by
  constructor
  · rintro (_ | ⟨word, yields⟩)
    exact ⟨word, yields⟩
  · rintro ⟨word, yields⟩
    exact .read word yields

@[simp] theorem yields_readNext {next : Cell → Interaction α} :
    (Interaction.readNext symbol next).Yields result ↔ ∃ word, (next word).Yields result := by
  constructor
  · rintro (_ | _ | ⟨word, yields⟩)
    exact ⟨word, yields⟩
  · rintro ⟨word, yields⟩
    exact .readNext word yields

@[simp] theorem yields_write {next : Option Fault → Interaction α} :
    (Interaction.write symbol word next).Yields result ↔
      ∃ refused, (next refused).Yields result := by
  constructor
  · rintro (_ | _ | _ | ⟨refused, yields⟩)
    exact ⟨refused, yields⟩
  · rintro ⟨refused, yields⟩
    exact .write refused yields

@[simp] theorem yields_requestSend {next : Unit → Interaction α} :
    (Interaction.requestSend next).Yields result ↔ (next ()).Yields result := by
  constructor
  · rintro (_ | _ | _ | _ | yields)
    exact yields
  · exact .requestSend

/-- What one interaction after another comes to, the second comes to from a result of the first. -/
theorem Yields.of_bind {first : Interaction α} {second : α → Interaction β} {result : β}
    (yields : (first.bind second).Yields result) :
    ∃ middle, first.Yields middle ∧ (second middle).Yields result := by
  induction first with
  | done middle => exact ⟨middle, .done middle, yields⟩
  | read symbol next ih =>
    obtain ⟨word, yields⟩ := yields_read.mp yields
    obtain ⟨middle, first, later⟩ := ih word yields
    exact ⟨middle, .read word first, later⟩
  | readNext symbol next ih =>
    obtain ⟨word, yields⟩ := yields_readNext.mp yields
    obtain ⟨middle, first, later⟩ := ih word yields
    exact ⟨middle, .readNext word first, later⟩
  | write symbol word next ih =>
    obtain ⟨refused, yields⟩ := yields_write.mp yields
    obtain ⟨middle, first, later⟩ := ih refused yields
    exact ⟨middle, .write refused first, later⟩
  | requestSend next ih =>
    obtain ⟨middle, first, later⟩ := ih () (yields_requestSend.mp yields)
    exact ⟨middle, .requestSend first, later⟩

/-- What comes after an interaction matters only at the results it can come to. -/
theorem bind_congr {first : Interaction α} {second third : α → Interaction β}
    (same : ∀ result, first.Yields result → second result = third result) :
    first.bind second = first.bind third := by
  induction first with
  | done result => exact same result (.done result)
  | read symbol next ih =>
    exact congrArg (read symbol) (funext fun word =>
      ih word fun result yields => same result (.read word yields))
  | readNext symbol next ih =>
    exact congrArg (readNext symbol) (funext fun word =>
      ih word fun result yields => same result (.readNext word yields))
  | write symbol word next ih =>
    exact congrArg (write symbol word) (funext fun refused =>
      ih refused fun result yields => same result (.write refused yields))
  | requestSend next ih =>
    exact congrArg requestSend (funext fun answer =>
      ih answer fun result yields => same result (.requestSend yields))

end Interaction

namespace Machine

variable {place : Place} {length : Nat} {instr : Instr} {frame after : Frame} {word : Cell}
  {stack rest : List Cell}

/-- A frame of code of so many instructions: it is at one of them or at the end, and its stack is no
deeper than it may be. -/
structure Frame.Inside (length : Nat) (frame : Frame) : Prop where
  pc : frame.pc ≤ length
  stack : frame.stack.length ≤ stackDepth

theorem length_push (pushed : push word stack = .ok rest) : rest.length ≤ stackDepth := by
  unfold push at pushed
  split at pushed
  · rename_i room
    cases pushed
    exact room
  · cases pushed

theorem length_binary {operate : Cell → Cell → Except Fault Cell}
    (done : binary operate stack = .ok rest) : rest.length ≤ stackDepth := by
  unfold binary at done
  split at done
  · rename_i top below others
    cases worked : operate below top with
    | error fault =>
      rw [worked] at done
      cases done
    | ok word =>
      rw [worked] at done
      exact length_push done
  · cases done

/-- An instruction that uses the stack alone leaves it no deeper than it may be. -/
theorem length_onStack (done : onStack place instr stack = .ok rest)
    (fits : stack.length ≤ stackDepth) : rest.length ≤ stackDepth := by
  cases instr with
  | push word | nodeIndex => exact length_push done
  | add | sub | mul | div | mod | max | min | eq | lt => exact length_binary done
  | dup =>
    cases stack with
    | nil => cases done
    | cons top below => exact length_push done
  | pop =>
    cases stack with
    | nil => cases done
    | cons top below =>
      cases done
      exact Nat.le_of_succ_le fits
  | swap =>
    cases stack with
    | nil => cases done
    | cons top others =>
      cases others with
      | nil => cases done
      | cons below others =>
        cases done
        exact fits
  | not =>
    cases stack with
    | nil => cases done
    | cons top below =>
      cases done
      exact fits
  | load symbol | loadNext symbol | store symbol | jump target | jumpIfZero target | send
  | halt => cases done

theorem proceed_running {result : Except Fault (List Cell)}
    (running : frame.proceed result = .running after) :
    ∃ stack, result = .ok stack ∧ after = { frame with pc := frame.pc + 1, stack } := by
  cases result with
  | error fault => cases running
  | ok stack =>
    cases running
    exact ⟨stack, rfl, rfl⟩

/-- A jump leads to an instruction or to the end of the code. -/
theorem jump_inside {target : Nat} (running : frame.jump length target stack = .running after)
    (fits : stack.length ≤ stackDepth) : after.Inside length := by
  unfold Frame.jump at running
  split at running
  · cases running
  · rename_i near
    cases running
    exact ⟨Nat.le_of_not_lt near, fits⟩

/-- An instruction leads from a frame of the code to another one, if it does not stop the call. -/
theorem execute_inside (inside : frame.Inside length) (before : frame.pc < length)
    (yields : (execute place length instr frame).Yields (.running after)) :
    after.Inside length := by
  have fits := inside.stack
  have proceeds : ∀ {result : Except Fault (List Cell)} {sent : Bool},
      Frame.proceed { frame with sent } result = .running after →
      (∀ stack, result = .ok stack → stack.length ≤ stackDepth) → after.Inside length := by
    intro result sent running shallow
    obtain ⟨stack, known, rfl⟩ := proceed_running running
    exact ⟨before, shallow stack known⟩
  cases instr with
  | load symbol | loadNext symbol =>
    simp only [execute, Interaction.yields_read, Interaction.yields_readNext,
      Interaction.yields_done] at yields
    obtain ⟨word, running⟩ := yields
    exact proceeds running.symm fun stack => length_push
  | store symbol =>
    cases stack : frame.stack with
    | nil =>
      rw [execute, stack] at yields
      cases yields
    | cons top rest =>
      rw [stack, List.length_cons] at fits
      simp only [execute, stack, Interaction.yields_write] at yields
      obtain ⟨_ | fault, yields⟩ := yields
      · refine proceeds (Interaction.yields_done.mp yields).symm fun left same => ?_
        cases same
        omega
      · cases yields
  | jump target => exact jump_inside (Interaction.yields_done.mp yields).symm fits
  | jumpIfZero target =>
    cases stack : frame.stack with
    | nil =>
      rw [execute, stack] at yields
      cases yields
    | cons top rest =>
      rw [stack, List.length_cons] at fits
      simp only [execute, stack, Interaction.yields_done] at yields
      split at yields
      · exact jump_inside yields.symm (by omega)
      · refine proceeds yields.symm fun left same => ?_
        cases same
        omega
  | send =>
    rw [execute, Interaction.yields_requestSend, Interaction.yields_done] at yields
    refine proceeds yields.symm fun left same => ?_
    cases same
    exact fits
  | halt => cases yields
  | _ =>
    simp only [execute, Interaction.yields_done] at yields
    exact proceeds yields.symm fun stack done => length_onStack done fits

end Machine

namespace Bytecode

variable {program : Bytecode} {place : Place} {frame : Machine.Frame}

/-- The frames that a call can come to. -/
inductive Reaches (program : Bytecode) (place : Place) : Machine.Frame → Prop where
  | initial : Reaches program place .initial
  | step {frame after : Machine.Frame} {instr : Instr} : Reaches program place frame →
      program.code[frame.pc]? = some instr →
      (Machine.execute place program.code.size instr frame).Yields (.running after) →
      Reaches program place after

/-- A call stays in its code, and its stack in its bounds. -/
theorem Reaches.inside (reaches : program.Reaches place frame) :
    frame.Inside program.code.size := by
  induction reaches with
  | initial => exact ⟨Nat.zero_le _, Nat.zero_le _⟩
  | step _ next yields ih =>
    exact Machine.execute_inside ih (Array.getElem?_eq_some_iff.mp next).1 yields

/-- How a call ends at a frame: there is no instruction left or the budget is spent, or the
instruction stops it. -/
def EndsAt (program : Bytecode) (place : Place) (frame : Machine.Frame) (signal : Signal) : Prop :=
  match program.code[frame.pc]? with
  | none => signal = frame.finish
  | some instr =>
    signal = .fault (.budgetExhausted program.budget) ∨
      (Machine.execute place program.code.size instr frame).Yields (.stopped signal)

/-- Whatever a call comes to, it comes to at a frame it reaches. -/
theorem exists_endsAt {fuel : Nat} {signal : Signal} (reaches : program.Reaches place frame)
    (yields : (program.continueFrom place fuel frame).Yields signal) :
    ∃ last, program.Reaches place last ∧ program.EndsAt place last signal := by
  induction fuel generalizing frame with
  | zero =>
    refine ⟨frame, reaches, ?_⟩
    unfold continueFrom at yields
    cases next : program.code[frame.pc]? with
    | none =>
      rw [next] at yields
      rw [EndsAt, next]
      exact Interaction.yields_done.mp yields
    | some instr =>
      rw [next] at yields
      rw [EndsAt, next]
      exact .inl (Interaction.yields_done.mp yields)
  | succ fuel ih =>
    unfold continueFrom at yields
    cases next : program.code[frame.pc]? with
    | none =>
      refine ⟨frame, reaches, ?_⟩
      rw [next] at yields
      rw [EndsAt, next]
      exact Interaction.yields_done.mp yields
    | some instr =>
      rw [next] at yields
      obtain ⟨progress, executed, later⟩ := Interaction.Yields.of_bind yields
      cases progress with
      | running after => exact ih (reaches.step next executed) later
      | stopped stop =>
        cases Interaction.yields_done.mp later
        refine ⟨frame, reaches, ?_⟩
        rw [EndsAt, next]
        exact .inr executed

end Bytecode

end Lockstep
