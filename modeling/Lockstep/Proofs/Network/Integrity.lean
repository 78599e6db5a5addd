import Lockstep.Proofs.Network.Unfolding
import Lockstep.Proofs.Table.Created

/-!
Cells that nothing in a run can change.

Programs are refused at guarded cells, and messages go to the receive cells and the flag alone. The
word that any other guarded cell has in a tick is therefore told by the table (`Symbol.wordIn`), and
what a node prepares for its next step is that word, from the start on and after each step it takes
(`Station.Upholds`).
-/
namespace Lockstep

/-- The word that a cell has in a tick if nobody writes to it. -/
def Symbol.wordIn (symbol : Symbol) (index count tick : Nat) : Cell :=
  if symbol.copyToNext = true ∨ tick = 0 then symbol.initial.resolve index count else 0

/-- A symbol of the table whose cell neither programs nor messages write to. -/
structure SymbolTable.Sealed (table : SymbolTable) (symbol : Symbol) : Prop where
  member : symbol ∈ table.symbols
  guarded : symbol.writeProtected = true
  flag : symbol.id ≠ table.incoming
  receive : ¬ (table.receive.start ≤ symbol.id ∧ symbol.id < table.receive.stop)

namespace SymbolTable

variable {table : SymbolTable} {symbol : Symbol}

theorem Valid.listed (valid : table.Valid) (member : symbol ∈ table.symbols) :
    table.symbols[symbol.id]? = some symbol := by
  obtain ⟨position, found⟩ := List.getElem?_of_mem member
  rw [valid.id_eq found]
  exact found

theorem Sealed.guards (shut : table.Sealed symbol) (valid : table.Valid) :
    table.Guards symbol.id := by
  rw [Guards, valid.protection_get, valid.listed shut.member, Option.map_some, shut.guarded]

theorem Sealed.keeps_iff (shut : table.Sealed symbol) (valid : table.Valid) :
    table.Keeps symbol.id ↔ symbol.copyToNext = true := by
  rw [Keeps, valid.copyPolicy_get, valid.listed shut.member, Option.map_some, Option.some.injEq]

/-- The first tick finds the word that the symbol starts with. -/
theorem Sealed.seeded (shut : table.Sealed symbol) (valid : table.Valid) (index count : Nat) :
    (Memory.seeded table index count).readNext symbol.id = symbol.wordIn index count 0 := by
  simp [Memory.readNext, Memory.seeded, valid.listed shut.member, shut.guarded, Symbol.wordIn]

end SymbolTable

namespace Station

variable {σ : Type} {table : SymbolTable} {program : Program σ} {full : Bool} {station : Station}
  {shared : σ} {tick : Nat} {symbol : Symbol}

/-- The station, whose next step is in this tick, has the words of sealed cells prepared for it,
unless it has halted. -/
def Upholds (table : SymbolTable) (tick : Nat) (station : Station) : Prop :=
  station.isTerminated = false → ∀ symbol, table.Sealed symbol →
    station.memory.readNext symbol.id =
      symbol.wordIn station.place.index station.place.count tick

/-- In its step the station reads what was prepared. -/
theorem Upholds.shown (upholds : station.Upholds table tick) (valid : table.Valid)
    (rests : station.AtRest table) (running : station.isTerminated = false)
    (shut : table.Sealed symbol) :
    ((station.consume table).memory.roll table).read symbol.id =
      symbol.wordIn station.place.index station.place.count tick := by
  rw [Memory.read_roll, rests.readNext_consume valid shut.flag shut.receive]
  exact upholds running symbol shut

theorem Upholds.step (upholds : station.Upholds table tick) (valid : table.Valid)
    (rests : station.AtRest table) :
    (station.step table program full shared).station.Upholds table (tick + 1) := by
  cases halted : station.isTerminated with
  | true =>
    rw [step_terminated halted]
    intro running
    exact absurd (running.symm.trans halted) Bool.false_ne_true
  | false =>
    have ran : Ran table station (station.perform table program shared)
      (station.step table program full shared) := step_running halted
    intro _ symbol shut
    have fits := rests.consume_fits valid
    have prepared : (station.perform table program shared).station.memory.readNext symbol.id =
        ((station.consume table).memory.roll table).readNext symbol.id :=
      Interaction.readNext_play valid _ fits.roll (shut.guards valid)
    rw [ran.memory, ran.place, prepared, Memory.readNext_roll valid fits,
      rests.readNext_consume valid shut.flag shut.receive, upholds halted symbol shut]
    by_cases kept : symbol.copyToNext = true
    · rw [if_pos ((shut.keeps_iff valid).mpr kept), Symbol.wordIn, Symbol.wordIn,
        if_pos (.inl kept), if_pos (.inl kept)]
    · rw [if_neg (mt (shut.keeps_iff valid).mp kept), Symbol.wordIn, if_neg]
      rintro (copied | first)
      · exact kept copied
      · exact Nat.succ_ne_zero tick first

theorem Upholds.enqueue (upholds : station.Upholds table tick) (messages : List Message) :
    (station.enqueue messages).Upholds table tick := by
  unfold Station.enqueue
  split
  · exact upholds
  · exact upholds

end Station

namespace Network

variable {ρ σ : Type} {network : Network ρ σ}

/-- Every station upholds the sealed cells, by the tick of its next step. -/
theorem upholds_invariant (valid : network.table.Valid) (start : State ρ σ) :
    network.Invariant start fun _ number taken scene =>
      ∀ (index : Nat) (station : Station), scene.stations[index]? = some station →
        station.Upholds network.table (if index < taken then number + 1 else number) where
  begins := by
    intro index station found
    obtain ⟨-, rfl⟩ := opening_found found
    intro _ symbol shut
    exact shut.seeded valid _ _
  turn := by
    intro past turn scene depicts sound inside upheld
    obtain ⟨station, found⟩ := sound.found inside
    obtain ⟨stations, -⟩ := leftBy_plainTurn network turn.tick found
    rw [stations]
    refine forall_set (fun tick _ station => station.Upholds network.table tick) ?_ upheld
    have own := upheld turn.index station found
    rw [if_neg (Nat.lt_irrefl _)] at own
    exact own.step valid (sound.rests station (List.mem_of_getElem? found))
  deliver := by
    intro past number scene sound upheld index station found
    rw [stations_deliverDue, Option.map_eq_some_iff] at found
    obtain ⟨before, listed, rfl⟩ := found
    exact (upheld index before listed).enqueue _
  next := by
    intro past number scene sound upheld index station found
    obtain ⟨stations, -⟩ := countTick_rest scene
    rw [stations] at found
    have own := upheld index station found
    rw [if_pos (sound.count ▸ (List.getElem?_eq_some_iff.mp found).1)] at own
    rwa [if_neg (Nat.not_lt_zero _)]

/-- On a table made from counts and extras, whatever the programs write, whatever is delivered and
whichever buffers there are: in each tick in which a node runs its program, that program finds a
guarded cell outside the receive cells and the flag as the table has it. A cell that keeps its word
reads as it started, and another does so in the first tick and as zero in all others. -/
theorem guarded_cells_kept {layout : TableLayout} {extras : List SymbolSpec} {config : NetworkConfig}
    {program : Nat → Program σ} {router : Router} {source : Source ρ} {start state : State ρ σ}
    {tick index : Nat} {node : Node}
    (built : Network.build (.create layout extras) config program router source = .ok network)
    (resting : network.Resting start) (occurs : network.Occurs start tick (.turns index) state)
    (found : state.nodes[index]? = some node) (ready : node.state = .ready) :
    ∃ view stepped left signal requested,
      Turn.view network ⟨tick, index, state⟩ = .ok view ∧
        Turn.stepped network ⟨tick, index, state⟩ = .ok stepped ∧
        (program index node.place state.shared).run (.create layout extras) view false =
          .ok ((left, signal), stepped.node.memory, requested) ∧
        stepped.node.memory.current = view.current ∧
        ∀ symbol ∈ (SymbolTable.create layout extras).symbols, symbol.writeProtected = true →
          symbol.id ≠ (SymbolTable.create layout extras).incoming →
          ¬ ((SymbolTable.create layout extras).receive.start ≤ symbol.id ∧
            symbol.id < (SymbolTable.create layout extras).receive.stop) →
          view.read symbol.id =
            if symbol.copyToNext = true ∨ tick = 0 then
              symbol.initial.resolve index config.nodeCount
            else 0 := by
  obtain ⟨-, valid, rfl⟩ := build_eq_ok.mp built
  obtain ⟨past, unfolds⟩ := occurs.unfolds
  obtain ⟨scene, taken, depicts, sound, rfl, upheld⟩ :=
    (upholds_invariant valid start).shows valid (resting.sound valid) unfolds
  obtain ⟨stepped, plays⟩ := Turn.plays valid ⟨tick, taken, state⟩ depicts sound found ready
  obtain ⟨signal, requested, played⟩ := plays.played
  refine ⟨_, stepped, stepped.shared, signal, requested, plays.seen, plays.ran, played,
    plays.current, ?_⟩
  intro symbol member guarded flag receive
  have listed := depicts.station found
  have own := upheld taken _ listed
  rw [if_neg (Nat.lt_irrefl _)] at own
  have read := own.shown valid (sound.rests _ (List.mem_of_getElem? listed))
    (Node.portray_running ready) ⟨member, guarded, flag, receive⟩
  rw [sound.place taken _ listed] at read
  exact read

/-- Three nodes flood each other, and try to write to two guarded cells. In the second tick the first
still starts as it did, and the other, which does not keep its word, is zero. -/
theorem guarded_cells_kept_flood :
    ∃ (network : Network Nat Unit) (state : State Nat Unit) (node : Node) (view : Memory)
      (stepped : Node.Stepped Unit),
      Network.build
          (.create { variableCount := 1 }
            [⟨"size", true, true, .nodeCount⟩, ⟨"spark", false, true, .constant 7⟩])
          { nodeCount := 3, capacity := 16 }
          (fun _ => .ofView fun _ => .write 8 99 fun _ => .write 9 99 fun _ => .requestSend fun _ =>
            .done .continue) Router.broadcast (Source.cycle [1]) = .ok network ∧
        network.Occurs (network.initial 0 ()) 1 (.turns 0) state ∧
        state.nodes[0]? = some node ∧ node.state = .ready ∧ node.pending.length = 2 ∧
        Turn.view network ⟨1, 0, state⟩ = .ok view ∧
        Turn.stepped network ⟨1, 0, state⟩ = .ok stepped ∧
        stepped.node.memory.current = view.current ∧ view.read 8 = 3 ∧ view.read 9 = 0 := by
  let program : Program Unit := .ofView fun _ => .write 8 99 fun _ => .write 9 99 fun _ =>
    .requestSend fun _ => .done .continue
  let extras : List SymbolSpec :=
    [⟨"size", true, true, .nodeCount⟩, ⟨"spark", false, true, .constant 7⟩]
  let network : Network Nat Unit :=
    ⟨.create { variableCount := 1 } extras, { nodeCount := 3, capacity := 16 }, fun _ => program,
      Router.broadcast, Source.cycle [1]⟩
  have built : Network.build network.table network.config network.program network.router
      network.source = .ok network := rfl
  have evaluated : (network.begin (network.initial 0 ())).toOption.bind (fun first =>
      (network.tick 0 first).toOption.bind fun state => state.nodes[0]?.map fun node =>
        (state.allTerminated || network.quiescent state, node.state, node.pending.length)) =
      some (false, .ready, 2) := by
    decide +kernel
  simp only [Option.bind_eq_some_iff, Option.map_eq_some_iff, toOption_eq_some_iff, Prod.mk.injEq]
    at evaluated
  obtain ⟨first, begun, state, ticked, node, found, lasting, ready, queued⟩ := evaluated
  have valid : network.table.Valid := (build_eq_ok.mp built).2.1
  have occurs : network.Occurs (network.initial 0 ()) 1 (.turns 0) state :=
    ((Unfolds.first begun).tick valid (initial_sound network 0 ()) ticked lasting).occurs
  obtain ⟨view, stepped, _, _, _, seen, ran, -, current, kept⟩ :=
    guarded_cells_kept built (.initial 0 ()) occurs found ready
  have size := kept ⟨8, "size", .user, true, true, .nodeCount⟩ (by decide) rfl (by decide) (by decide)
  have spark := kept ⟨9, "spark", .user, false, true, .constant 7⟩ (by decide) rfl (by decide)
    (by decide)
  exact ⟨network, state, node, view, stepped, built, occurs, found, ready, queued, seen, ran,
    current, size, spark⟩

end Network

end Lockstep
