import Lockstep.Machine.Call
import Lockstep.Proofs.Delivery.Ownership
import Lockstep.Proofs.Program.Play
import Lockstep.Proofs.Program.Trace
import Lockstep.Table.Layout

/-!
What the budget of a program does, and what it does not.

`Bytecode.unbudgeted` carries out the first instructions of a program with no regard to a budget. A
call is such a stretch and what it does with the rest of its budget (`continueFrom_add`), so the
budget decides only how far a program gets that has not stopped by itself. No instruction stops for
the budget (`execute_own`): that fault tells a runaway program from all others.
-/
namespace Lockstep.Bytecode

open Machine (Frame Progress)

variable {code : Array Instr} {place : Place} {table : SymbolTable} {memory : Memory}
  {requested : Bool} {limit : Nat} {frame : Frame}

/-- Carries out at most `limit` instructions. Answers how many it has carried out, and how the call
goes on from there. -/
def unbudgeted (code : Array Instr) (place : Place) :
    (limit : Nat) → Frame → Interaction (Nat × Progress)
  | 0, frame => .done (0, .running frame)
  | limit + 1, frame =>
    match code[frame.pc]? with
    | none => .done (0, .stopped frame.finish)
    | some instr =>
      (Machine.execute place code.size instr frame).bind fun
        | .running after => (unbudgeted code place limit after).bind fun (executed, progress) =>
            .done (executed + 1, progress)
        | .stopped signal => .done (1, .stopped signal)

/-- How a call ends when its budget is spent, or when it has stopped before. -/
def conclude (program : Bytecode) : Progress → Signal
  | .running frame =>
    if frame.pc < program.code.size then .fault (.budgetExhausted program.budget)
    else frame.finish
  | .stopped signal => signal

/-- The call goes on if it has not stopped. -/
def resume (program : Bytecode) (place : Place) (fuel : Nat) : Progress → Interaction Signal
  | .running frame => program.continueFrom place fuel frame
  | .stopped signal => .done signal

theorem resume_spent (program : Bytecode) (place : Place) (progress : Progress) :
    program.resume place 0 progress = .done (program.conclude progress) := by
  cases progress with
  | running frame =>
    rw [resume, conclude]
    unfold continueFrom
    cases next : program.code[frame.pc]? with
    | none =>
      have ended := Nat.not_lt.mpr (Array.getElem?_eq_none_iff.mp next)
      rw [if_neg ended]
    | some instr =>
      have inside := (Array.getElem?_eq_some_iff.mp next).1
      rw [if_pos inside]
  | stopped signal => rfl

theorem resume_ended {program : Bytecode} (place : Place) (fuel : Nat) {progress : Progress}
    (ended : ∀ frame, progress = .running frame → program.code.size ≤ frame.pc) :
    program.resume place fuel progress = .done (program.conclude progress) := by
  cases progress with
  | running frame =>
    have ended := ended frame rfl
    rw [resume, conclude, if_neg (Nat.not_lt.mpr ended)]
    unfold continueFrom
    rw [Array.getElem?_eq_none ended]
  | stopped signal => rfl

/-- A call is a stretch of instructions, and goes on from there with what is left of its budget. -/
theorem continueFrom_add (program : Bytecode) (place : Place) (limit more : Nat) (frame : Frame) :
    program.continueFrom place (limit + more) frame =
      (unbudgeted program.code place limit frame).bind fun (_, progress) =>
        program.resume place more progress := by
  induction limit generalizing frame with
  | zero =>
    rw [Nat.zero_add]
    rfl
  | succ limit ih =>
    rw [Nat.add_right_comm, unbudgeted]
    unfold continueFrom
    cases program.code[frame.pc]? with
    | none => rfl
    | some instr =>
      simp only [Interaction.bind_assoc]
      congr 1
      funext progress
      cases progress with
      | running after => simp only [ih, Interaction.bind_assoc, Interaction.bind]
      | stopped signal => rfl

/-! ### No instruction stops for the budget -/

/-- The fault of a call whose budget is spent. -/
def ofBudget : Fault → Bool
  | .budgetExhausted _ => true
  | _ => false

theorem write_own {symbol : SymbolId} {word : Cell} {fault : Fault}
    (refused : memory.write table symbol word = .ok (.error fault)) : ofBudget fault = false := by
  unfold Memory.write at refused
  split at refused
  · cases refused
    rfl
  · cases refused
    rfl
  · obtain ⟨next, -, done⟩ := bind_eq_ok refused
    cases done

theorem push_own {word : Cell} {stack : List Cell} {fault : Fault}
    (refused : Machine.push word stack = .error fault) : ofBudget fault = false := by
  unfold Machine.push at refused
  split at refused <;> cases refused
  rfl

theorem nonzero_own {operate : Cell → Cell → Cell} {below top : Cell} {fault : Fault}
    (refused : Machine.nonzero operate below top = .error fault) : ofBudget fault = false := by
  unfold Machine.nonzero at refused
  split at refused <;> cases refused
  rfl

theorem binary_own {operate : Cell → Cell → Except Fault Cell} {stack : List Cell} {fault : Fault}
    (own : ∀ below top fault, operate below top = .error fault → ofBudget fault = false)
    (refused : Machine.binary operate stack = .error fault) : ofBudget fault = false := by
  unfold Machine.binary at refused
  split at refused
  · rename_i top below rest
    cases worked : operate below top with
    | error fault =>
      rw [worked] at refused
      cases refused
      exact own below top fault worked
    | ok word =>
      rw [worked] at refused
      exact push_own refused
  · cases refused
    rfl

theorem onStack_own {instr : Instr} {stack : List Cell} {fault : Fault}
    (refused : Machine.onStack place instr stack = .error fault) : ofBudget fault = false := by
  cases instr with
  | push | nodeIndex => exact push_own refused
  | add | sub | mul | max | min | eq | lt =>
    refine binary_own (fun below top fault same => ?_) refused
    cases same
  | div | mod => exact binary_own (fun _ _ _ => nonzero_own) refused
  | dup =>
    cases stack with
    | nil =>
      cases refused
      rfl
    | cons top below => exact push_own refused
  | pop | not =>
    cases stack <;> cases refused
    rfl
  | swap =>
    match stack with
    | [] | [_] =>
      cases refused
      rfl
    | _ :: _ :: _ => cases refused
  | load symbol | loadNext symbol | store symbol | jump target | jumpIfZero target | send
  | halt =>
    cases refused
    rfl

theorem proceed_own {result : Except Fault (List Cell)} {fault : Fault}
    (own : ∀ fault, result = .error fault → ofBudget fault = false)
    (stopped : frame.proceed result = .stopped (.fault fault)) : ofBudget fault = false := by
  cases result with
  | error reason =>
    cases stopped
    exact own fault rfl
  | ok stack => cases stopped

theorem jump_own {length target : Nat} {stack : List Cell} {fault : Fault}
    (stopped : frame.jump length target stack = .stopped (.fault fault)) :
    ofBudget fault = false := by
  unfold Frame.jump at stopped
  split at stopped <;> cases stopped
  rfl

/-- An instruction that stops a call does so for a reason of its own. -/
theorem execute_own {length : Nat} {instr : Instr} {fault : Fault} {left : Memory × Bool}
    (ran : (Machine.execute place length instr frame).run table memory requested =
      .ok (.stopped (.fault fault), left)) : ofBudget fault = false := by
  obtain ⟨pc, stack, sent⟩ := frame
  cases instr with
  | load symbol | loadNext symbol =>
    exact proceed_own (fun _ => push_own) (congrArg Prod.fst (Except.ok.inj ran))
  | store symbol =>
    cases stack with
    | nil =>
      cases ran
      rfl
    | cons top rest =>
      simp only [Machine.execute, Interaction.run] at ran
      obtain ⟨answer, wrote, ran⟩ := bind_eq_ok ran
      cases answer with
      | ok after => cases ran
      | error refused =>
        cases ran
        exact write_own wrote
  | jump target => exact jump_own (congrArg Prod.fst (Except.ok.inj ran))
  | jumpIfZero target =>
    cases stack with
    | nil =>
      cases ran
      rfl
    | cons top rest =>
      replace ran := congrArg Prod.fst (Except.ok.inj ran)
      by_cases zero : top = 0
      · exact jump_own ((if_pos zero).symm.trans ran)
      · cases (if_neg zero).symm.trans ran
  | send | halt => cases ran
  | _ => exact proceed_own (fun _ => onStack_own) (congrArg Prod.fst (Except.ok.inj ran))

/-! ### Stretches and calls -/

/-- What a stretch of at most `limit` instructions comes to: it is shorter only if it has stopped,
and it never stops for the budget. -/
structure Counted (limit : Nat) (stretch : Nat × Progress) : Prop where
  le : stretch.1 ≤ limit
  whole : ∀ frame, stretch.2 = .running frame → stretch.1 = limit
  own : ∀ fault, stretch.2 = .stopped (.fault fault) → ofBudget fault = false

theorem run_unbudgeted {stretch : Nat × Progress} {left : Memory × Bool}
    (ran : (unbudgeted code place limit frame).run table memory requested = .ok (stretch, left)) :
    Counted limit stretch := by
  induction limit generalizing frame memory requested stretch with
  | zero =>
    cases ran
    refine ⟨Nat.le_refl 0, fun _ _ => rfl, fun fault same => ?_⟩
    cases same
  | succ limit ih =>
    rw [unbudgeted] at ran
    cases next : code[frame.pc]? with
    | none =>
      rw [next] at ran
      cases ran
      refine ⟨Nat.zero_le _, fun frame same => ?_, fun fault same => ?_⟩
      · cases same
      · unfold Frame.finish at same
        split at same <;> cases same
    | some instr =>
      rw [next] at ran
      simp only [Interaction.run_bind] at ran
      obtain ⟨⟨progress, memory, requested⟩, carried, later⟩ := bind_eq_ok ran
      cases progress with
      | running after =>
        simp only [Interaction.run_bind] at later
        obtain ⟨⟨⟨executed, progress⟩, memory, requested⟩, went, ended⟩ := bind_eq_ok later
        cases ended
        have counted := ih went
        exact ⟨Nat.succ_le_succ counted.le,
          fun frame running => congrArg (· + 1) (counted.whole frame running), counted.own⟩
      | stopped signal =>
        cases later
        refine ⟨Nat.succ_le_succ (Nat.zero_le _), fun frame same => ?_, fun fault same => ?_⟩
        · cases same
        · cases same
          exact execute_own carried

/-- What a program comes to on a node's memory in at most `limit` instructions, if no budget cuts it
off: how many it has carried out, how it goes on, and all that it did. -/
def free (code : Array Instr) (place : Place) (table : SymbolTable) (memory : Memory)
    (requested : Bool) (limit : Nat) :
    Except Breach (((Nat × Progress) × List Effect) × Memory × Bool) :=
  (unbudgeted code place limit .initial).recorded.run table memory requested

/-- What a call with a budget comes to on a node's memory: its signal, and all that it did. -/
def limited (code : Array Instr) (place : Place) (table : SymbolTable) (memory : Memory)
    (requested : Bool) (budget : Nat) : Except Breach ((Signal × List Effect) × Memory × Bool) :=
  ((Bytecode.mk code budget).call place).recorded.run table memory requested

/-- The end of a stretch judged by a budget. -/
def judged (code : Array Instr) (budget : Nat)
    (went : ((Nat × Progress) × List Effect) × Memory × Bool) :
    (Signal × List Effect) × Memory × Bool :=
  (((Bytecode.mk code budget).conclude went.1.1.2, went.1.2), went.2)

theorem counted_of_free {stretch : Nat × Progress} {effects : List Effect} {left : Memory × Bool}
    (ran : free code place table memory requested limit = .ok ((stretch, effects), left)) :
    Counted limit stretch := by
  have plain : (unbudgeted code place limit .initial).run table memory requested =
      (free code place table memory requested limit).map fun left => (left.1.1, left.2) :=
    (Interaction.run_recorded _).symm
  rw [ran] at plain
  exact run_unbudgeted plain

/-- A call goes on from its first instructions with what is left of its budget. -/
theorem limited_add (code : Array Instr) (place : Place) (table : SymbolTable) (memory : Memory)
    (requested : Bool) (budget more : Nat) :
    limited code place table memory requested (budget + more) =
      free code place table memory requested budget >>=
        fun (((_, progress), effects), memory, requested) =>
          (((Bytecode.mk code (budget + more)).resume place more progress).recorded.run table memory
            requested).map (Interaction.after effects) := by
  unfold limited free call
  rw [continueFrom_add, Interaction.run_recorded_bind]

/-- A call comes to what its stretch comes to, with the end judged by the budget. -/
theorem limited_eq (code : Array Instr) (place : Place) (table : SymbolTable) (memory : Memory)
    (requested : Bool) (budget : Nat) : limited code place table memory requested budget =
      (free code place table memory requested budget).map (judged code budget) := by
  have spent := limited_add code place table memory requested budget 0
  simp only [Nat.add_zero, resume_spent] at spent
  rw [spent]
  cases free code place table memory requested budget with
  | error breach => rfl
  | ok ran =>
    refine congrArg Except.ok ?_
    simp only [Interaction.after, List.append_nil, judged]

/-- A program that has stopped, or has come to the end of its code, does nothing more with a larger
budget. -/
theorem limited_larger {executed more : Nat} {progress : Progress} {effects : List Effect}
    {left : Memory × Bool}
    (ran : free code place table memory requested limit =
      .ok (((executed, progress), effects), left))
    (ended : ∀ frame, progress = .running frame → code.size ≤ frame.pc) :
    limited code place table memory requested (limit + more) =
      .ok ((((Bytecode.mk code (limit + more)).conclude progress), effects), left) := by
  obtain ⟨memory, requested⟩ := left
  rw [limited_add, ran]
  change Except.map (Interaction.after effects) (((Bytecode.mk code (limit + more)).resume place more
    progress).recorded.run table memory requested) = _
  rw [resume_ended place more ended]
  refine congrArg Except.ok ?_
  simp only [Interaction.after, List.append_nil]

/-- Only what has spent the budget and has instructions left ends as exhausted. -/
theorem inside_of_exhausted {budget : Nat} {progress : Progress}
    (own : ∀ fault, progress = .stopped (.fault fault) → ofBudget fault = false)
    (exhausted : (Bytecode.mk code budget).conclude progress = .fault (.budgetExhausted budget)) :
    ∃ frame, progress = .running frame ∧ frame.pc < code.size := by
  cases progress with
  | running frame =>
    rw [conclude] at exhausted
    split at exhausted
    · exact ⟨frame, rfl, by assumption⟩
    · unfold Frame.finish at exhausted
      split at exhausted <;> cases exhausted
  | stopped signal => cases own _ (congrArg Progress.stopped exhausted)

/-- All ends but those by the budget are the same for every budget. -/
theorem conclude_of_ended {budget larger : Nat} {progress : Progress}
    (ended : ∀ frame, progress = .running frame → code.size ≤ frame.pc) :
    (Bytecode.mk code larger).conclude progress = (Bytecode.mk code budget).conclude progress := by
  cases progress with
  | running frame =>
    have ended := Nat.not_lt.mpr (ended frame rfl)
    rw [conclude, conclude, if_neg ended, if_neg ended]
  | stopped signal => rfl

/-- What two budgets do to one program on one memory. -/
structure Cuts (code : Array Instr) (place : Place) (table : SymbolTable) (memory : Memory)
    (requested : Bool) (budget larger : Nat) : Prop where
  /-- A call carries out the first instructions of the program and no others, -/
  first : limited code place table memory requested budget =
    (free code place table memory requested budget).map (judged code budget)
  /-- at most as many as the budget says. -/
  bounded : ∀ executed progress effects left,
    free code place table memory requested budget = .ok (((executed, progress), effects), left) →
    executed ≤ budget
  /-- A larger budget changes nothing for a program that the smaller one does not stop. -/
  same : (∀ effects left, limited code place table memory requested budget ≠
      .ok ((.fault (.budgetExhausted budget), effects), left)) →
    limited code place table memory requested larger =
      limited code place table memory requested budget
  /-- The budget stops the programs that have spent it and have instructions left. -/
  exhausted : ∀ effects left, limited code place table memory requested budget =
      .ok ((.fault (.budgetExhausted budget), effects), left) ↔
    ∃ frame, free code place table memory requested budget =
      .ok (((budget, .running frame), effects), left) ∧ frame.pc < code.size
  /-- A program that comes to its end with the last instruction it may carry out has not faulted. -/
  fallen : ∀ frame effects left, free code place table memory requested budget =
      .ok (((budget, .running frame), effects), left) → code.size ≤ frame.pc →
    limited code place table memory requested budget = .ok ((frame.finish, effects), left)
  /-- On memory that fits a valid table there is a result. -/
  answers : table.Valid → memory.Fits table → ∃ signal effects left,
    limited code place table memory requested budget = .ok ((signal, effects), left)

/-- A budget cuts off runaway programs and does nothing else. -/
theorem budget_cuts_runaways (code : Array Instr) (place : Place) (table : SymbolTable)
    (memory : Memory) (requested : Bool) {budget larger : Nat} (le : budget ≤ larger) :
    Cuts code place table memory requested budget larger := by
  have first := limited_eq code place table memory requested budget
  refine ⟨first, ?bounded, ?same, ?exhausted, ?fallen, ?answers⟩
  case bounded => exact fun executed progress effects left ran => (counted_of_free ran).le
  case same =>
    intro spared
    obtain ⟨more, rfl⟩ := Nat.le.dest le
    cases ran : free code place table memory requested budget with
    | error breach =>
      rw [first, limited_add, ran]
      rfl
    | ok went =>
      obtain ⟨⟨⟨executed, progress⟩, effects⟩, left⟩ := went
      rw [ran] at first
      have ended : ∀ frame, progress = .running frame → code.size ≤ frame.pc := by
        rintro frame rfl
        refine Nat.le_of_not_lt fun inside => spared effects left (first.trans ?_)
        exact congrArg (fun signal => Except.ok ((signal, effects), left)) (if_pos inside)
      rw [limited_larger ran ended, first, conclude_of_ended ended]
      rfl
  case exhausted =>
    intro effects left
    rw [first]
    constructor
    · intro exhausted
      cases ran : free code place table memory requested budget with
      | error breach =>
        rw [ran] at exhausted
        cases exhausted
      | ok went =>
        obtain ⟨⟨⟨executed, progress⟩, record⟩, rest⟩ := went
        have counted := counted_of_free ran
        rw [ran] at exhausted
        obtain ⟨⟨spent, rfl⟩, rfl⟩ := by
          simpa only [Except.map, judged, Except.ok.injEq, Prod.mk.injEq] using exhausted
        obtain ⟨frame, rfl, inside⟩ := inside_of_exhausted counted.own spent
        obtain rfl := counted.whole frame rfl
        exact ⟨frame, rfl, inside⟩
    · rintro ⟨frame, ran, inside⟩
      rw [ran]
      exact congrArg (fun signal => Except.ok ((signal, effects), left)) (if_pos inside)
  case fallen =>
    intro frame effects left ran ended
    rw [first, ran]
    exact congrArg (fun signal => Except.ok ((signal, effects), left))
      (if_neg (Nat.not_lt.mpr ended))
  case answers =>
    intro valid fits
    rw [limited, Interaction.run_eq valid _ fits]
    exact ⟨_, _, _, rfl⟩

/-- Three instructions that fall off the end of the code: a budget of three is enough, as is any
larger one, and with a budget of two the write is the last thing done. -/
theorem budget_cuts_runaways_falling :
    3 ≤ 5 ∧ Cuts #[.nodeIndex, .store 3, .send] ⟨1, 4⟩ .standard (.new .standard) false 3 5 ∧
      [2, 3, 5].map (fun budget => ((limited #[.nodeIndex, .store 3, .send] ⟨1, 4⟩ .standard
        (.new .standard) false budget).map Prod.fst).toOption) =
        [some (.fault (.budgetExhausted 2), [.write 3 1 none]),
          some (.send, [.write 3 1 none, .requestSend]),
          some (.send, [.write 3 1 none, .requestSend])] :=
  ⟨by decide, budget_cuts_runaways _ _ _ _ _ (by decide), by decide +kernel⟩

end Lockstep.Bytecode
