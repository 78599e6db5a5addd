import Lockstep.Proofs.Machine.Election
import Lockstep.Proofs.Network.Punctuality

/-!
A station's part in a ring election.

In each step a station learns from the message it consumes, if there is one, and sends what it knows
(`Station.Voted`). What it knows is the number prepared for its next step.
-/
namespace Lockstep

/-- A table that an election can be held on. -/
structure SymbolTable.Electoral (table : SymbolTable) : Prop where
  valid : table.Valid
  receives : 0 < table.receive.length
  sends : 0 < table.send.length
  /-- Programs may write the number of the node and the first word to send. -/
  numbered : table.protection[table.nodeId]? = some false
  posted : table.protection[table.send.start]? = some false
  /-- No message overwrites the number or the flag. -/
  number : table.nodeId ≠ table.incoming ∧
    ¬ (table.receive.start ≤ table.nodeId ∧ table.nodeId < table.receive.stop)
  flag : ¬ (table.receive.start ≤ table.incoming ∧ table.incoming < table.receive.stop)
  /-- The flag falls by itself. -/
  blank : table.Fleeting table.incoming ∧
    ∀ index count, (Memory.seeded table index count).readNext table.incoming = 0
  /-- Every node starts with its own number. -/
  own : ∀ index count,
    (Memory.seeded table index count).read table.nodeId = Cell.ofCount index ∧
      (Memory.seeded table index count).readNext table.nodeId = Cell.ofCount index

/-- Every table made from counts is one. -/
theorem SymbolTable.electoral_create (layout : TableLayout) (extras : List SymbolSpec) :
    (create layout extras).Electoral := by
  refine ⟨valid_create layout extras, ?_, sends_create, protection_nodeId, protection_send,
    ⟨?_, ?_⟩, incoming_apart, delivered_create (.inl rfl), seeded_nodeId⟩
  · simpa [create, Span.length] using layout.payloadSize_pos
  · exact Nat.succ_ne_self _
  · exact fun inside => Nat.lt_asymm inside.2 (Nat.lt_succ_self _)

/-- The greatest number of a node. -/
def Network.leader {ρ σ : Type} (network : Network ρ σ) : Int :=
  (network.config.nodeCount : Int) - 1

/-- The word a message of an election carries. -/
def Message.word (message : Message) : Cell :=
  message.payload[0]?.getD 0

/-- The first word of a message sent now. -/
theorem Memory.getElem?_outgoing {table : SymbolTable} {memory : Memory} (valid : table.Valid)
    (fits : memory.Fits table) (sends : 0 < table.send.length) :
    (memory.outgoing table)[0]?.getD 0 = memory.readNext table.send.start := by
  obtain ⟨ordered, within⟩ := valid.send_within
  rw [← fits.next] at within
  rw [Span.length] at sends
  rw [outgoing, Array.getElem?_extract, if_pos (by omega)]
  rfl

namespace Station

variable {σ : Type} {table : SymbolTable} {bytecode : Bytecode} {station : Station} {shared : σ}

/-- The number a station starts its next step with. -/
def number (table : SymbolTable) (station : Station) : Cell :=
  station.memory.readNext table.nodeId

/-- The greater of the number of a station and the one in the message it is to consume. -/
def learns (table : SymbolTable) (station : Station) : Cell :=
  match station.inbox with
  | [] => station.number table
  | message :: _ =>
    if station.number table < message.word then message.word else station.number table

theorem number_le_learns : (station.number table).toInt ≤ (station.learns table).toInt := by
  unfold learns
  split
  · exact Int.le_refl _
  · split
    · rename_i greater
      exact Int.le_of_lt (Int64.lt_iff_toInt_lt.mp greater)
    · exact Int.le_refl _

theorem word_le_learns {message : Message} (first : message ∈ station.inbox.head?) :
    message.word.toInt ≤ (station.learns table).toInt := by
  obtain ⟨rest, waiting⟩ := List.head?_eq_some_iff.mp first
  simp only [learns, waiting]
  split
  · exact Int.le_refl _
  · rename_i least
    exact Int.not_lt.mp (mt Int64.lt_iff_toInt_lt.mpr least)

theorem learns_eq : station.learns table = station.number table ∨
    ∃ message ∈ station.inbox.head?, station.learns table = message.word := by
  unfold learns
  split
  · exact .inl rfl
  · rename_i message rest waiting
    split
    · exact .inr ⟨message, by simp [waiting], rfl⟩
    · exact .inl rfl

/-- What a station learns is within the bounds of its number and its message. -/
theorem learns_le {bound : Int} (number : (station.number table).toInt ≤ bound)
    (words : ∀ message ∈ station.inbox, message.word.toInt ≤ bound) :
    (station.learns table).toInt ≤ bound := by
  have source : station.learns table = station.number table ∨
      ∃ message ∈ station.inbox.head?, station.learns table = message.word := learns_eq
  rcases source with same | ⟨message, first, same⟩
  · rw [same]
    exact number
  · rw [same]
    exact words message (List.mem_of_mem_head? first)

/-- A station that knows of all it has received also knows of what it consumes next. -/
theorem KeepsUp.heard {queue : List Message} {clock : Nat} (kept : station.KeepsUp queue clock)
    (heard : ∀ message ∈ queue.take station.received,
      message.word.toInt ≤ (station.number table).toInt) :
    ∀ message ∈ queue.take (station.received + min 1 station.inbox.length),
      message.word.toInt ≤ (station.learns table).toInt := by
  intro message member
  cases waiting : station.inbox with
  | nil =>
    rw [waiting] at member
    exact Int.le_trans (heard message member) number_le_learns
  | cons first rest =>
    have listed : queue[station.received]? = some first := by
      rw [← List.head?_drop, ← kept.inbox, waiting]
      rfl
    have one : min 1 (first :: rest).length = 1 := by simp
    rw [waiting, one, List.take_add_one, listed] at member
    cases List.mem_append.mp member with
    | inl before => exact Int.le_trans (heard message before) number_le_learns
    | inr now =>
      cases List.mem_singleton.mp now
      exact word_le_learns (by rw [waiting]; rfl)

/-- A station has learnt from the message it consumed and sends what it knows. -/
structure Voted (table : SymbolTable) (station : Station) (stepped : Stepped σ) : Prop where
  outcome : stepped.outcome = .changed
  running : stepped.station.isTerminated = false
  sends : ∃ payload, stepped.outgoing = some payload ∧
    payload[0]?.getD 0 = stepped.station.number table
  number : stepped.station.number table = station.learns table
  /-- What is read in the step is what was prepared for it. -/
  shown : stepped.station.memory.read table.nodeId = station.number table

/-- A station has learnt from the message it consumed, and if it tells anything it is what it
knows. -/
structure Sincere (table : SymbolTable) (station : Station) (stepped : Stepped σ) : Prop where
  running : stepped.station.isTerminated = false
  number : stepped.station.number table = station.learns table
  /-- What is read in the step is what was prepared for it. -/
  shown : stepped.station.memory.read table.nodeId = station.number table
  sends : ∀ payload, stepped.outgoing = some payload →
    payload[0]?.getD 0 = station.learns table
  lasting : ∀ fault, stepped.outcome ≠ .failed (.fault fault)
  inbox : stepped.station.inbox = station.inbox.tail

/-- A message does not overwrite the number. -/
theorem AtRest.consume_number (rests : station.AtRest table) (electoral : table.Electoral) :
    (station.consume table).number table = station.number table :=
  rests.readNext_consume electoral.valid electoral.number.1 electoral.number.2

/-- What a station knows of once it has consumed its message. -/
theorem AtRest.learnt_eq (rests : station.AtRest table) (electoral : table.Electoral) :
    ((station.consume table).memory.roll table).learnt table = station.learns table := by
  have valid := electoral.valid
  rw [learns]
  cases waiting : station.inbox with
  | nil =>
    have fed : station.consume table = station := by rw [consume, waiting]
    have low : (station.memory.roll table).read table.incoming = 0 :=
      rests.blank _ electoral.blank.1 (electoral.blank.2 _ _)
    rw [fed, Memory.learnt, if_pos low]
    rfl
  | cons message rest =>
    have length := rests.sized message (by rw [waiting]; exact List.mem_cons_self)
    have fed : (station.consume table).memory = station.memory.accept table message.payload := by
      rw [consume, waiting]
    have raised : ((station.memory.accept table message.payload).roll table).read
        table.incoming = 1 := by
      rw [Memory.read_roll, Memory.readNext_accept valid rests.fits length, if_pos rfl]
    have kept : ((station.consume table).memory.roll table).read table.nodeId =
        station.number table := rests.consume_number electoral
    rw [fed] at kept
    have heard : ((station.memory.accept table message.payload).roll table).read
        table.receive.start = message.word := by
      have receives := electoral.receives
      rw [Span.length] at receives
      have within : table.receive.start ≤ table.receive.start ∧
          table.receive.start < table.receive.stop := ⟨Nat.le_refl _, by omega⟩
      have other : table.receive.start ≠ table.incoming :=
        fun same => electoral.flag (same ▸ within)
      rw [Memory.read_roll, Memory.readNext_accept valid rests.fits length, if_neg other,
        if_pos within, Nat.sub_self]
      rfl
    rw [fed, Memory.learnt, raised, kept, heard, if_neg (by decide)]

/-- The step of a running station whose program is a call that goes on or sends. -/
theorem step_of_call (full : Bool) (shared : σ) {signal : Signal} {after : Memory}
    {requested : Bool} (running : station.isTerminated = false)
    (calls : (bytecode.call station.place).play table ((station.consume table).memory.roll table)
      false = (signal, after, requested))
    (goes : signal = .continue ∨ signal = .send) :
    station.step table bytecode.program full shared =
        conclude table full ⟨!station.inbox.isEmpty, { station.consume table with memory := after },
          shared, signal, requested⟩ ∧
      after.current = ((station.consume table).memory.roll table).current := by
  have performed : station.perform table bytecode.program shared =
      ⟨!station.inbox.isEmpty, { station.consume table with memory := after }, shared, signal,
        requested⟩ := by
    rw [perform, Bytecode.program, Interaction.play_ofView, calls]
  constructor
  · rw [Station.step, if_neg (by simp [running]), performed]
    rcases goes with rfl | rfl <;> rfl
  · have same : ((bytecode.call station.place).play table
        ((station.consume table).memory.roll table) false).2.1.current = _ :=
      Interaction.play_current _
    rw [calls] at same
    exact same

theorem consume_running (running : station.isTerminated = false) :
    (station.consume table).isTerminated = false := by
  rw [isTerminated, consume_state]
  exact running

/-- A step that does not halt leaves what its program left, and a running station. -/
theorem conclude_goesOn (table : SymbolTable) (full : Bool) (performance : Performance σ)
    (goes : performance.halts = false) :
    (conclude table full performance).station.memory = performance.station.memory ∧
      (conclude table full performance).station.isTerminated =
        performance.station.isTerminated := by
  unfold conclude
  dsimp only
  split
  · exact ⟨rfl, rfl⟩
  · rw [goes]
    exact ⟨rfl, rfl⟩

theorem outgoing_of_conclude {performance : Performance σ} {payload : Cells}
    (sends : (conclude table full performance).outgoing = some payload) :
    performance.sends = true ∧ payload = performance.station.memory.outgoing table := by
  unfold conclude at sends
  cases asked : performance.sends <;> cases full <;>
    simp only [asked, Bool.and_false, Bool.and_true, Bool.false_eq_true, if_false,
      if_true, reduceCtorEq, Option.some.injEq] at sends
  exact ⟨rfl, sends.symm⟩

/-- A step whose program did not fault is none itself. -/
theorem conclude_not_fault (performance : Performance σ) (fault : Fault) :
    (conclude table full performance).outcome ≠ .failed (.fault fault) := by
  unfold conclude
  dsimp only
  split
  · exact fun exhausted => by cases exhausted
  · exact Performance.outcome_ne_failed _ _

/-- A call that goes on or sends, and leaves what the station learns, makes for a sincere step. -/
theorem AtRest.sincere (rests : station.AtRest table) (electoral : table.Electoral)
    (running : station.isTerminated = false) {signal : Signal} {after : Memory} {requested : Bool}
    (calls : (bytecode.call station.place).play table ((station.consume table).memory.roll table)
      false = (signal, after, requested))
    (goes : signal = .continue ∨ signal = .send)
    (number : after.readNext table.nodeId = station.learns table)
    (word : (requested || signal == .send) = true →
      after.readNext table.send.start = station.learns table) :
    Sincere table station (station.step table bytecode.program full shared) := by
  have valid := electoral.valid
  obtain ⟨stepped, current⟩ := step_of_call full shared running calls goes
  have fits : after.Fits table := by
    have keeps := Interaction.play_fits (bytecode.call station.place)
      (rests.consume_fits valid).roll false
    rw [calls] at keeps
    exact keeps
  have ran : Ran table station (station.perform table bytecode.program shared)
      (station.step table bytecode.program full shared) := step_running running
  rw [stepped] at ran ⊢
  obtain ⟨memory, state⟩ := conclude_goesOn table full
    ⟨!station.inbox.isEmpty, { station.consume table with memory := after }, shared, signal,
      requested⟩ (by rcases goes with rfl | rfl <;> rfl)
  have alive := state.trans (consume_running running)
  have inbox := ran.inbox
  rw [alive, if_neg Bool.false_ne_true] at inbox
  refine ⟨alive, ?_, ?_, fun payload sends => ?_, fun fault failed => ?_, inbox⟩
  · rw [Station.number, memory]
    exact number
  · rw [memory]
    exact (congrArg (·[table.nodeId]?.getD 0) current).trans (rests.consume_number electoral)
  · obtain ⟨asked, rfl⟩ := outgoing_of_conclude sends
    rw [Memory.getElem?_outgoing valid fits electoral.sends]
    exact word asked
  · exact conclude_not_fault _ fault failed

theorem AtRest.sincere_always (rests : station.AtRest table) (electoral : table.Electoral)
    (made : Bytecode.leaderElection table = .ok bytecode) (running : station.isTerminated = false) :
    Sincere table station (station.step table bytecode.program full shared) := by
  obtain ⟨after, calls, number, word⟩ := Bytecode.play_leaderElection made electoral.valid
    (rests.consume_fits electoral.valid).roll electoral.receives electoral.sends
    electoral.numbered electoral.posted station.place
  rw [rests.learnt_eq electoral] at number word
  exact rests.sincere electoral running calls (.inr rfl) number fun _ => word

/-- The step of a running station in an election, as long as there is a buffer left. -/
theorem AtRest.voted (rests : station.AtRest table) (electoral : table.Electoral)
    (made : Bytecode.leaderElection table = .ok bytecode) (running : station.isTerminated = false) :
    Voted table station (station.step table bytecode.program false shared) := by
  have sincere : Sincere table station (station.step table bytecode.program false shared) :=
    rests.sincere_always electoral made running
  obtain ⟨after, played, -⟩ := Bytecode.play_leaderElection made electoral.valid
    (rests.consume_fits electoral.valid).roll electoral.receives electoral.sends
    electoral.numbered electoral.posted station.place
  obtain ⟨called, -⟩ := step_of_call false shared running played (.inr rfl)
  have changed : (station.step table bytecode.program false shared).outcome = .changed := by
    rw [called]
    simp [conclude, Performance.sends, Performance.outcome]
  have sends : (station.step table bytecode.program false shared).outgoing =
      some (after.outgoing table) := by
    rw [called]
    rfl
  refine ⟨changed, sincere.running, ⟨_, sends, ?_⟩, sincere.number, sincere.shown⟩
  rw [sincere.number]
  exact sincere.sends _ sends

end Station

end Lockstep
