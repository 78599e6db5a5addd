import Lockstep.Proofs.Machine.Election

/-!
What one call of the election on change does.

A node learns as in any election and stores what it knows now as its number. It has something to
tell if that is more than it knew before, or if it has not told anything yet; then it sends the
number and notes in variable 0 that it has begun. Otherwise it sends nothing.
-/
namespace Lockstep

/-- What a node knows now is what it knew before, and that has been told. -/
def Memory.Told (table : SymbolTable) (memory : Memory) : Prop :=
  memory.learnt table = memory.read table.nodeId ∧ memory.read table.vars.start ≠ 0

instance (table : SymbolTable) (memory : Memory) : Decidable (memory.Told table) :=
  inferInstanceAs (Decidable (_ ∧ _))

namespace Bytecode

variable {bytecode : Bytecode} {table : SymbolTable} {memory : Memory}

/-- What an election on change goes on with: it sends what it knows unless that has been told. -/
def announcing (table : SymbolTable) : Array Instr :=
  #[.dup, .load table.nodeId, .eq, .load table.vars.start, .mul, .jumpIfZero 15, .pop, .jump 19,
    .store table.send.start, .push 1, .store table.vars.start, .send]

/-- There is an election on change for a table with a variable and room for a message. -/
theorem leaderElectionOnChange_eq (receives : 0 < table.receive.length)
    (sends : 0 < table.send.length) (counts : 0 < table.vars.length) :
    leaderElectionOnChange table = .ok (ofCode (learning table ++ announcing table)) := by
  simp [leaderElectionOnChange, SymbolTable.symbolAt, SymbolTable.span, receives, sends, counts,
    bind, Except.bind, pure, Except.pure, learning, announcing]

/-- The product that the program tests is zero if there is something to tell. -/
theorem told_iff : ¬ Cell.ofBool (memory.learnt table == memory.read table.nodeId) *
    memory.read table.vars.start = 0 ↔ memory.Told table := by
  unfold Memory.Told
  by_cases same : memory.learnt table = memory.read table.nodeId
  · simp [same, Cell.ofBool]
  · simp [same, Cell.ofBool]

/-- The instructions behind those that every election begins with. -/
theorem getElem?_announcing (code : bytecode.code = learning table ++ announcing table)
    (position : Nat) : bytecode.code[position + 7]? = (announcing table)[position]? := by
  have behind : (learning table).size ≤ position + 7 := Nat.le_add_left 7 position
  rw [code, Array.getElem?_append_right behind, show (learning table).size = 7 from rfl,
    Nat.add_sub_cancel]

/-- What is known already is not told again. -/
theorem play_told {after : Memory}
    (code : bytecode.code = learning table ++ announcing table) (place : Place)
    (number : after.read table.nodeId = memory.read table.nodeId)
    (begun : after.read table.vars.start = memory.read table.vars.start) (fuel : Nat) :
    (bytecode.continueFrom place (fuel + 12) ⟨7, [memory.learnt table], false⟩).play table after
        false =
      if memory.Told table then (.continue, after, false)
      else (bytecode.continueFrom place (fuel + 6) ⟨15, [memory.learnt table], false⟩).play table
        after false := by
  have next := getElem?_announcing code
  have size : bytecode.code.size = 19 := by
    rw [code, Array.size_append]
    rfl
  rw [play_onStack (next 0) rfl, play_load (next 1) (by simp [Machine.stackDepth]),
    play_onStack (next 2) rfl, play_load (next 3) (by simp [Machine.stackDepth]),
    play_onStack (next 4) rfl, play_jumpIfZero (next 5) (by omega), number, begun]
  by_cases told : memory.Told table
  · rw [if_pos told, if_neg (told_iff.mpr told), play_onStack (next 6) rfl,
      play_jump (next 7) (by omega), play_ended (next 12)]
    rfl
  · rw [if_neg told, if_pos (Decidable.not_not.mp (mt told_iff.mp told))]

theorem play_leaderElectionOnChange (made : leaderElectionOnChange table = .ok bytecode)
    (valid : table.Valid) (fits : memory.Fits table) (receives : 0 < table.receive.length)
    (sends : 0 < table.send.length) (counts : 0 < table.vars.length)
    (numbered : table.protection[table.nodeId]? = some false)
    (posted : table.protection[table.send.start]? = some false)
    (noted : table.protection[table.vars.start]? = some false)
    (apart : table.vars.start ≠ table.nodeId ∧ table.vars.start ≠ table.send.start)
    (place : Place) :
    ∃ after, after.readNext table.nodeId = memory.learnt table ∧
      if memory.Told table then
        (bytecode.call place).play table memory false = (.continue, after, false) ∧
          after.readNext table.vars.start = memory.readNext table.vars.start
      else
        (bytecode.call place).play table memory false = (.send, after, true) ∧
          after.readNext table.send.start = memory.learnt table ∧
          after.readNext table.vars.start = 1 := by
  have accepted := leaderElectionOnChange_eq receives sends counts
  rw [made] at accepted
  have code : bytecode.code = learning table ++ announcing table :=
    congrArg Bytecode.code (Except.ok.inj accepted)
  have budget : bytecode.budget = 1017 + 7 := congrArg Bytecode.budget (Except.ok.inj accepted)
  have next := getElem?_announcing code
  obtain ⟨stored, first⟩ := memory.exists_stage numbered (memory.learnt table)
  obtain ⟨spare, learnt⟩ := play_learning code first place 1017
  have current : stored.current = memory.current := by
    obtain ⟨-, rfl⟩ := Memory.stage_eq_ok first
    rfl
  have reads : ∀ index, stored.read index = memory.read index := fun index => by
    rw [Memory.read, current, Memory.read]
  have played := play_told code place (reads table.nodeId) (reads table.vars.start) (spare + 1005)
  rw [← budget] at learnt
  have goesOn := learnt.trans played
  have fitsStored := fits.stage first
  have number : stored.readNext table.nodeId = memory.learnt table := by
    rw [Memory.readNext_stage valid fits first, if_pos rfl]
  by_cases told : memory.Told table
  · refine ⟨stored, number, ?_⟩
    rw [if_pos told] at goesOn ⊢
    exact ⟨goesOn, by rw [Memory.readNext_stage valid fits first, if_neg apart.1]⟩
  · obtain ⟨written, second⟩ := stored.exists_stage posted (memory.learnt table)
    obtain ⟨after, third⟩ := written.exists_stage noted 1
    have fitsWritten := fitsStored.stage second
    refine ⟨after, ?_, ?_⟩
    · rw [Memory.readNext_stage valid fitsWritten third, if_neg apart.1.symm,
        Memory.readNext_stage valid fitsStored second, number]
      split <;> rfl
    · rw [if_neg told] at goesOn ⊢
      refine ⟨goesOn.trans ?_, ?_, ?_⟩
      · rw [play_store (next 8) second, play_onStack (next 9) rfl, play_store (next 10) third,
          play_send (next 11), play_ended (next 12)]
        rfl
      · rw [Memory.readNext_stage valid fitsWritten third, if_neg apart.2.symm,
          Memory.readNext_stage valid fitsStored second, if_pos rfl]
      · rw [Memory.readNext_stage valid fitsWritten third, if_pos rfl]

end Bytecode

end Lockstep
