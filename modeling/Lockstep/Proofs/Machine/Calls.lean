import Lockstep.Machine.Call
import Lockstep.Proofs.Program.Play

/-!
Playing a call of the stack machine, one instruction at a time.

Each lemma takes a call over one instruction that does not fault, so a call through known code is
played by rewriting with them in turn.
-/
namespace Lockstep.Bytecode

variable {bytecode : Bytecode} {place : Place} {table : SymbolTable} {memory : Memory}
  {requested sent : Bool} {fuel pc : Nat} {stack : List Cell} {word : Cell} {symbol : SymbolId}

theorem play_continueFrom {frame : Machine.Frame} {instr : Instr}
    (next : bytecode.code[frame.pc]? = some instr) :
    (bytecode.continueFrom place (fuel + 1) frame).play table memory requested =
      match (Machine.execute place bytecode.code.size instr frame).play table memory requested with
      | (.running frame, memory, requested) =>
        (bytecode.continueFrom place fuel frame).play table memory requested
      | (.stopped signal, memory, requested) => (signal, memory, requested) := by
  rw [continueFrom, next]
  simp only [Interaction.play_bind]
  cases known : (Machine.execute place bytecode.code.size instr frame).play table memory
    requested with
  | mk progress rest => cases progress <;> rfl

theorem play_ended (ended : bytecode.code[pc]? = none) :
    (bytecode.continueFrom place fuel ⟨pc, stack, sent⟩).play table memory requested =
      (if sent then .send else .continue, memory, requested) := by
  unfold continueFrom
  rw [ended]
  rfl

theorem play_load (next : bytecode.code[pc]? = some (.load symbol))
    (room : stack.length < Machine.stackDepth) :
    (bytecode.continueFrom place (fuel + 1) ⟨pc, stack, sent⟩).play table memory requested =
      (bytecode.continueFrom place fuel ⟨pc + 1, memory.read symbol :: stack, sent⟩).play table
        memory requested := by
  rw [play_continueFrom next]
  simp only [Machine.execute, Interaction.play, Machine.push, if_pos room, Machine.Frame.proceed]

theorem play_store {after : Memory} (next : bytecode.code[pc]? = some (.store symbol))
    (staged : memory.stage table symbol word = .ok after) :
    (bytecode.continueFrom place (fuel + 1) ⟨pc, word :: stack, sent⟩).play table memory requested =
      (bytecode.continueFrom place fuel ⟨pc + 1, stack, sent⟩).play table after requested := by
  rw [play_continueFrom next]
  simp only [Machine.execute, Interaction.play, staged, Machine.Frame.proceed]

theorem play_send (next : bytecode.code[pc]? = some .send) :
    (bytecode.continueFrom place (fuel + 1) ⟨pc, stack, sent⟩).play table memory requested =
      (bytecode.continueFrom place fuel ⟨pc + 1, stack, true⟩).play table memory true := by
  rw [play_continueFrom next]
  simp only [Machine.execute, Interaction.play, Machine.Frame.proceed]

/-- An instruction that asks for nothing. -/
theorem play_done {frame after : Machine.Frame} {instr : Instr}
    (next : bytecode.code[frame.pc]? = some instr)
    (carried : Machine.execute place bytecode.code.size instr frame = .done (.running after)) :
    (bytecode.continueFrom place (fuel + 1) frame).play table memory requested =
      (bytecode.continueFrom place fuel after).play table memory requested := by
  rw [play_continueFrom next, carried]
  rfl

theorem play_jump {target : Nat} (next : bytecode.code[pc]? = some (.jump target))
    (inside : target ≤ bytecode.code.size) :
    (bytecode.continueFrom place (fuel + 1) ⟨pc, stack, sent⟩).play table memory requested =
      (bytecode.continueFrom place fuel ⟨target, stack, sent⟩).play table memory requested :=
  play_done next (congrArg Interaction.done (if_neg (Nat.not_lt.mpr inside)))

theorem play_jumpIfZero {target : Nat} (next : bytecode.code[pc]? = some (.jumpIfZero target))
    (inside : target ≤ bytecode.code.size) :
    (bytecode.continueFrom place (fuel + 1) ⟨pc, word :: stack, sent⟩).play table memory requested =
      (bytecode.continueFrom place fuel ⟨if word = 0 then target else pc + 1, stack, sent⟩).play
        table memory requested := by
  refine play_done next (congrArg Interaction.done ?_)
  split
  · exact if_neg (Nat.not_lt.mpr inside)
  · rfl

/-- An instruction that uses the stack alone. -/
theorem play_onStack {instr : Instr} {rest : List Cell} (next : bytecode.code[pc]? = some instr)
    (carried : Machine.onStack place instr stack = .ok rest) :
    (bytecode.continueFrom place (fuel + 1) ⟨pc, stack, sent⟩).play table memory requested =
      (bytecode.continueFrom place fuel ⟨pc + 1, rest, sent⟩).play table memory requested := by
  cases instr with
  | load symbol | loadNext symbol | store symbol | jump target | jumpIfZero target | send | halt =>
    cases carried
  | _ =>
    refine play_done next (congrArg Interaction.done ?_)
    rw [carried]
    rfl

/-- An instruction that fails on its stack. -/
theorem play_fault {instr : Instr} {fault : Fault} (next : bytecode.code[pc]? = some instr)
    (carried : Machine.execute place bytecode.code.size instr ⟨pc, stack, sent⟩ =
      .done (.stopped (.fault fault))) :
    (bytecode.continueFrom place (fuel + 1) ⟨pc, stack, sent⟩).play table memory requested =
      (.fault fault, memory, requested) := by
  rw [play_continueFrom next, carried]
  rfl

end Lockstep.Bytecode
