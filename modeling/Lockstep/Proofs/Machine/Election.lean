import Lockstep.Machine.Stock
import Lockstep.Proofs.Machine.Calls

/-!
What one call of the ring election does.

A node that has received a message learns the greater of its own number and the one received; it
stores what it knows now as its number, and sends it.
-/
namespace Lockstep

/-- The greatest number a node knows of once it has read its message. -/
def Memory.learnt (table : SymbolTable) (memory : Memory) : Cell :=
  if memory.read table.incoming = 0 then memory.read table.nodeId
  else if memory.read table.nodeId < memory.read table.receive.start then
    memory.read table.receive.start
  else memory.read table.nodeId

namespace Bytecode

variable {bytecode : Bytecode} {table : SymbolTable} {memory : Memory}

/-- What every election begins with: the node takes in its message and stores what it knows. -/
def learning (table : SymbolTable) : Array Instr :=
  #[.load table.nodeId, .load table.incoming, .jumpIfZero 5, .load table.receive.start, .max, .dup,
    .store table.nodeId]

/-- Once a node has stored what it knows, that is on the stack. -/
theorem play_learning {after : Memory} {rest : Array Instr}
    (begins : bytecode.code = learning table ++ rest)
    (stored : memory.stage table table.nodeId (memory.learnt table) = .ok after) (place : Place)
    (fuel : Nat) :
    ∃ spare, (bytecode.continueFrom place (fuel + 7) .initial).play table memory false =
      (bytecode.continueFrom place (spare + fuel) ⟨7, [memory.learnt table], false⟩).play table after
        false := by
  have next : ∀ pc < 7, bytecode.code[pc]? = (learning table)[pc]? := by
    intro pc inside
    rw [begins, Array.getElem?_append_left inside]
  have inside : 5 ≤ bytecode.code.size := by
    rw [begins, Array.size_append]
    exact Nat.le_add_right_of_le (show 5 ≤ 7 by decide)
  -- both branches of the jump meet at the fifth instruction
  have meet : ∀ left, (bytecode.continueFrom place (left + 2)
      ⟨5, [memory.learnt table], false⟩).play table memory false =
        (bytecode.continueFrom place left ⟨7, [memory.learnt table], false⟩).play table after
          false := by
    intro left
    rw [play_onStack (next 5 (by decide)) rfl, play_store (next 6 (by decide)) stored]
  rw [Machine.Frame.initial, play_load (next 0 (by decide)) (by decide),
    play_load (next 1 (by decide)) (by simp [Machine.stackDepth]),
    play_jumpIfZero (next 2 (by decide)) inside]
  by_cases silent : memory.read table.incoming = 0
  · have known : memory.learnt table = memory.read table.nodeId := if_pos silent
    rw [if_pos silent, ← known, meet (fuel + 2)]
    exact ⟨2, by rw [Nat.add_comm]⟩
  · have known : memory.learnt table =
        if memory.read table.nodeId < memory.read table.receive.start then
          memory.read table.receive.start
        else memory.read table.nodeId := if_neg silent
    rw [if_neg silent, play_load (next 3 (by decide)) (by simp [Machine.stackDepth]),
      play_onStack (next 4 (by decide)) rfl, ← known, meet fuel]
    exact ⟨0, by rw [Nat.zero_add]⟩

/-- There is a ring election for a table with room for a message. -/
theorem leaderElection_eq (receives : 0 < table.receive.length) (sends : 0 < table.send.length) :
    leaderElection table = .ok (ofCode (learning table ++ #[.store table.send.start, .send])) := by
  simp [leaderElection, SymbolTable.symbolAt, SymbolTable.span, receives, sends, bind, Except.bind,
    pure, Except.pure, learning]

theorem play_leaderElection (made : leaderElection table = .ok bytecode) (valid : table.Valid)
    (fits : memory.Fits table) (receives : 0 < table.receive.length)
    (sends : 0 < table.send.length) (numbered : table.protection[table.nodeId]? = some false)
    (posted : table.protection[table.send.start]? = some false) (place : Place) :
    ∃ after, (bytecode.call place).play table memory false = (.send, after, true) ∧
      after.readNext table.nodeId = memory.learnt table ∧
      after.readNext table.send.start = memory.learnt table := by
  rw [leaderElection_eq receives sends] at made
  cases made
  obtain ⟨middle, first⟩ := memory.exists_stage numbered (memory.learnt table)
  obtain ⟨after, second⟩ := middle.exists_stage posted (memory.learnt table)
  refine ⟨after, ?_, ?_, ?_⟩
  · have code : (ofCode (learning table ++ #[.store table.send.start, .send])).code =
        learning table ++ #[.store table.send.start, .send] := rfl
    obtain ⟨spare, learnt⟩ := play_learning code first place 1017
    rw [call, show (ofCode _).budget = 1017 + 7 from rfl, learnt, play_store rfl second,
      play_send rfl, play_ended rfl]
    rfl
  · rw [Memory.readNext_stage valid (fits.stage first) second,
      Memory.readNext_stage valid fits first, if_pos rfl]
    split <;> rfl
  · rw [Memory.readNext_stage valid (fits.stage first) second, if_pos rfl]

end Bytecode

end Lockstep
