import Lockstep.Proofs.Network.Unfolding
import Lockstep.Proofs.Table.Created

/-!
Every message is read in the tick it should be, and nothing else is read.

The messages scheduled to a node, in the order they arrive, fix the ticks in which it consumes one
(`consumptions`). In such a tick its program finds the words that were sent in the receive cells and
one in the incoming flag; in every other tick it finds zeros (`Turn.Punctual`). What the program
finds is what its step runs it on, and the message leaves the queue (`Turn.Plays`).
-/
namespace Lockstep

/-- The words of a span, told one by one. -/
theorem Cells.slice_eq {cells words : Cells} {span : Span} (within : span.Within cells.size)
    (length : words.size = span.length)
    (same : ∀ offset < span.length,
      cells[span.start + offset]?.getD 0 = words[offset]?.getD 0) :
    cells.slice span = .ok words := by
  rw [slice, if_pos within]
  obtain ⟨ordered, inside⟩ := within
  rw [Span.length] at length same
  refine congrArg Except.ok (Array.ext ?_ fun offset here there => ?_)
  · simp only [Array.size_extract]
    omega
  · have word := same offset (length ▸ there)
    have bound : span.start + offset < cells.size := by omega
    rw [Array.getElem?_eq_getElem bound, Array.getElem?_eq_getElem there] at word
    rw [Array.getElem_extract]
    exact word

namespace Station

variable {table : SymbolTable} {station : Station}

/-- A program finds the words of the message its station has consumed. -/
theorem AtRest.read_consumed (rests : station.AtRest table) (valid : table.Valid)
    (apart : ¬ (table.receive.start ≤ table.incoming ∧ table.incoming < table.receive.stop))
    {message : Message} (first : station.inbox.head? = some message) :
    ((station.consume table).memory.roll table).current.slice table.receive =
        .ok message.payload ∧
      ((station.consume table).memory.roll table).read table.incoming = 1 := by
  obtain ⟨rest, waiting⟩ := List.head?_eq_some_iff.mp first
  have length := rests.sized message (by rw [waiting]; exact List.mem_cons_self)
  have fed : (station.consume table).memory = station.memory.accept table message.payload := by
    rw [consume, waiting]
  have fits := rests.fits.accept valid length
  rw [fed]
  refine ⟨Cells.slice_eq (fits.next ▸ valid.receive_within) length fun offset inside => ?_, ?_⟩
  · have word := Memory.readNext_accept valid rests.fits length (table.receive.start + offset)
    rw [Span.length] at inside
    have within : table.receive.start ≤ table.receive.start + offset ∧
        table.receive.start + offset < table.receive.stop :=
      ⟨Nat.le_add_right _ _, by omega⟩
    have other : table.receive.start + offset ≠ table.incoming := fun same => apart (same ▸ within)
    rw [if_neg other, if_pos within, Nat.add_sub_cancel_left] at word
    exact word
  · rw [Memory.read_roll, Memory.readNext_accept valid rests.fits length, if_pos rfl]

/-- Without a message a program finds zeros. -/
theorem AtRest.read_blank (rests : station.AtRest table) (valid : table.Valid)
    (waiting : station.inbox = [])
    (blank : ∀ symbol, symbol = table.incoming ∨
      table.receive.start ≤ symbol ∧ symbol < table.receive.stop →
      table.Fleeting symbol ∧ ∀ index count, (Memory.seeded table index count).readNext symbol = 0) :
    ((station.consume table).memory.roll table).current.slice table.receive =
        .ok (Cells.zeros table.receive.length) ∧
      ((station.consume table).memory.roll table).read table.incoming = 0 := by
  have fed : station.consume table = station := by
    rw [consume, waiting]
  rw [fed]
  have zero : ∀ symbol, symbol = table.incoming ∨
      table.receive.start ≤ symbol ∧ symbol < table.receive.stop →
      station.memory.readNext symbol = 0 := by
    intro symbol here
    obtain ⟨fleeting, start⟩ := blank symbol here
    exact rests.blank symbol fleeting (start _ _)
  refine ⟨Cells.slice_eq (rests.fits.next ▸ valid.receive_within) (by simp [Cells.zeros])
    fun offset inside => ?_, zero _ (.inl rfl)⟩
  rw [Span.length] at inside
  have within : table.receive.start ≤ table.receive.start + offset ∧
      table.receive.start + offset < table.receive.stop :=
    ⟨Nat.le_add_right _ _, by omega⟩
  have word := zero (table.receive.start + offset) (.inr within)
  refine Eq.trans word ?_
  simp [Cells.zeros, Span.length, inside]

end Station

namespace Network

variable {ρ σ : Type} {network : Network ρ σ}

/-- What a program finds in a turn of a node with these messages coming to it, in the order they
arrive. -/
structure Turn.Punctual (network : Network ρ σ) (turn : Turn ρ σ) (inbox : List Message)
    (node : Node) (view : Memory) : Prop where
  /-- There is a message to consume in the ticks told by the arrivals, and in no others. -/
  consumes : node.pending ≠ [] ↔ turn.tick ∈ consumptions 0 (inbox.map (·.arrival))
  /-- It is the message whose tick it is, and the program finds its words. -/
  reads : ∀ (position : Nat) (message : Message),
    (consumptions 0 (inbox.map (·.arrival)))[position]? = some turn.tick →
      inbox[position]? = some message →
        node.pending.head?.map turn.before.pool.letter = some message ∧
        view.current.slice network.table.receive = .ok message.payload ∧
        view.read network.table.incoming = 1
  blank : turn.tick ∉ consumptions 0 (inbox.map (·.arrival)) →
    view.current.slice network.table.receive =
        .ok (Cells.zeros network.table.receive.length) ∧
      view.read network.table.incoming = 0

/-- A turn of a running node, with the messages sent before it and those still to come. -/
theorem turn_punctual (valid : network.table.Valid)
    (apart : ¬ (network.table.receive.start ≤ network.table.incoming ∧
      network.table.incoming < network.table.receive.stop))
    (blank : ∀ symbol, symbol = network.table.incoming ∨
      network.table.receive.start ≤ symbol ∧ symbol < network.table.receive.stop →
      network.table.Fleeting symbol ∧
        ∀ index count, (Memory.seeded network.table index count).readNext symbol = 0)
    {turn : Turn ρ σ} {scene : Scene ρ σ} {earlier later : List Message}
    (depicts : Depicts network [] turn.before scene) (sound : scene.Sound network)
    (tracks : Tracks earlier turn.tick turn.index scene)
    (coming : ∀ message ∈ later, turn.tick < message.arrival) {node : Node}
    (found : turn.before.nodes[turn.index]? = some node) (ready : node.state = .ready) :
    ∃ view stepped, turn.Plays network node view stepped ∧
      turn.Punctual network (inOrder ((earlier ++ later).filter (·.destination == turn.index)))
        node view := by
  obtain ⟨stepped, plays⟩ := turn.plays valid depicts sound found ready
  refine ⟨_, stepped, plays, ?_⟩
  have station := depicts.station found
  have rests := sound.rests _ (List.mem_of_getElem? station)
  have kept := tracks.queues turn.index _ station (Node.portray_running ready)
  rw [if_neg (Nat.lt_irrefl _)] at kept
  have split : inOrder ((earlier ++ later).filter (·.destination == turn.index)) =
      arrived earlier turn.tick turn.index ++
        inOrder (((earlier ++ later).filter (·.destination == turn.index)).filter
          (turn.tick < ·.arrival)) := by
    rw [← arrived_append coming]
    exact inOrder_split _ turn.tick
  have late : ∀ message ∈ inOrder (((earlier ++ later).filter (·.destination == turn.index)).filter
      (turn.tick < ·.arrival)), turn.tick < message.arrival := by
    intro message member
    have inside := (inOrder_perm _).mem_iff.mp member
    exact of_decide_eq_true (List.mem_filter.mp inside).2
  obtain ⟨consumes, which⟩ := kept.consumption late
  rw [← split] at consumes which
  have waiting : (node.portray turn.before.pool).inbox = node.pending.map turn.before.pool.letter :=
    rfl
  refine ⟨?_, fun position message now listed => ?_, fun otherwise => ?_⟩
  · rw [← consumes, waiting, ne_eq, ne_eq, List.map_eq_nil_iff]
  · have first := (which position now).trans listed
    refine ⟨?_, rests.read_consumed valid apart first⟩
    rw [← first, waiting, List.head?_map]
  · have empty := Decidable.not_not.mp (mt consumes.mp otherwise)
    exact rests.read_blank valid empty blank

/-- A node consumes the messages scheduled to it in the order they arrive, each as soon as it can.
The step of each of its turns runs its program on exactly what was sent, or on zeros, and takes the
message off the queue. -/
theorem deliveries_punctual {layout : TableLayout} {extras : List SymbolSpec}
    {config : NetworkConfig} {program : Nat → Program σ} {router : Router} {source : Source ρ}
    (built : Network.build (.create layout extras) config program router source = .ok network)
    (window : network.InWindow) {start : State ρ σ} (resting : network.Resting start)
    {maxTicks : Nat} (bounded : maxTicks ≤ lastTick) :
    ∃ result final, network.run maxTicks start = .ok (result, final) ∧
      network.Ends maxTicks start result final ∧
      result.stats.messagesSent = (network.log maxTicks start).length ∧
      ∀ turn ∈ network.history maxTicks start, ∀ node : Node,
        turn.before.nodes[turn.index]? = some node → node.state = .ready →
        ∃ view stepped, turn.Plays network node view stepped ∧
          turn.Punctual network (network.inbox maxTicks start turn.index) node view := by
  obtain ⟨settings, valid, same⟩ := build_eq_ok.mp built
  have table : network.table = .create layout extras := by rw [same]
  have positive : 0 < network.config.minDelay := by
    rw [same]
    exact settings.positive
  rw [← table] at valid
  obtain ⟨first, begun, depicts⟩ := begin_depicts valid (resting.sound valid)
  obtain ⟨followed, counted⟩ := turnsFrom_followed valid window positive
    (show 0 + maxTicks ≤ lastTick by omega) depicts (opening_sound _ _ _) (tracks_opening _ _ _)
  obtain ⟨result, final, ran, ends⟩ := run_ends valid (resting.sound valid) maxTicks
  have history : network.history maxTicks start = network.turnsFrom maxTicks 0 first := by
    rw [Network.history, begun]
  refine ⟨result, final, ran, ends, ?_, fun turn member node found ready => ?_⟩
  · rw [run, begun] at ran
    rw [counted result final ran, List.nil_append, Network.log, history]
  · rw [history] at member
    obtain ⟨scene, earlier, later, shown, sound, tracks, -, parts, coming⟩ := followed.of_mem member
    rw [List.nil_append, ← history, ← Network.log] at parts
    rw [Network.inbox, parts]
    refine turn_punctual valid ?_ ?_ shown sound tracks coming found ready
    · rw [table]
      exact SymbolTable.incoming_apart
    · rw [table]
      exact fun symbol => SymbolTable.delivered_create

/-- Three nodes flood each other with their numbers. The first finds nothing in the first tick. In
the third, with three messages waiting, it finds the number that the last has sent in the first tick,
which has waited behind that of the second. -/
theorem deliveries_punctual_flood :
    ∃ (network : Network Nat Unit) (opening third : Turn Nat Unit) (fresh node : Node)
      (blank view : Memory) (quiet stepped : Node.Stepped Unit),
      Network.build (.create {} []) {}
          (fun _ => .ofView fun _ => .read 6 fun own => .write 3 own fun _ => .requestSend fun _ =>
            .done .continue) Router.broadcast (Source.cycle [1]) = .ok network ∧
        network.InWindow ∧ network.Resting (network.initial 0 ()) ∧ 3 ≤ lastTick ∧
        (∃ result final, network.run 3 (network.initial 0 ()) = .ok (result, final) ∧
          network.Ends 3 (network.initial 0 ()) result final ∧ result.stats.messagesSent = 18) ∧
        (opening ∈ network.history 3 (network.initial 0 ()) ∧ opening.tick = 0 ∧
          opening.index = 0 ∧ opening.before.nodes[opening.index]? = some fresh ∧ fresh.state = .ready ∧
          opening.Plays network fresh blank quiet ∧ quiet.node.received = fresh.received ∧
          blank.current.slice network.table.receive = .ok #[0] ∧
          blank.read network.table.incoming = 0) ∧
        third ∈ network.history 3 (network.initial 0 ()) ∧ third.tick = 2 ∧
          third.index = 0 ∧ third.before.nodes[third.index]? = some node ∧ node.state = .ready ∧
          node.pending.length = 3 ∧ third.Plays network node view stepped ∧
          stepped.node.received = node.received + 1 ∧
          view.current.slice network.table.receive = .ok #[2] ∧
          view.read network.table.incoming = 1 := by
  let program : Program Unit := .ofView fun _ => .read 6 fun own => .write 3 own fun _ =>
    .requestSend fun _ => .done .continue
  let network : Network Nat Unit :=
    ⟨.create {} [], {}, fun _ => program, Router.broadcast, Source.cycle [1]⟩
  have built : Network.build network.table network.config network.program network.router
      network.source = .ok network := rfl
  have window : network.InWindow := by
    intro count
    simp [network, Source.cycle, Nat.mod_one]
  have many : 3 ≤ lastTick := by decide
  have turns : (network.history 3 (network.initial 0 ()))[0]?.bind (fun opening =>
      opening.before.nodes[opening.index]?.bind fun fresh =>
      (network.history 3 (network.initial 0 ()))[6]?.bind fun third =>
      third.before.nodes[third.index]?.map fun node =>
        ((opening.tick, opening.index, fresh.state, fresh.pending),
          (third.tick, third.index, node.state, node.pending.length))) =
      some ((0, 0, .ready, []), (2, 0, .ready, 3)) := by
    decide +kernel
  have messages : (network.log 3 (network.initial 0 ())).length = 18 ∧
      (network.log 3 (network.initial 0 ())).filter (·.destination == 0) =
        [⟨#[1], 1, 0, 1⟩, ⟨#[2], 2, 0, 1⟩, ⟨#[1], 1, 0, 2⟩, ⟨#[2], 2, 0, 2⟩, ⟨#[1], 1, 0, 3⟩,
          ⟨#[2], 2, 0, 3⟩] := by
    decide +kernel
  obtain ⟨count, messages⟩ := messages
  have inbox : network.inbox 3 (network.initial 0 ()) 0 =
      [⟨#[1], 1, 0, 1⟩, ⟨#[2], 2, 0, 1⟩, ⟨#[1], 1, 0, 2⟩, ⟨#[2], 2, 0, 2⟩, ⟨#[1], 1, 0, 3⟩,
        ⟨#[2], 2, 0, 3⟩] := by
    rw [Network.inbox, messages]
    exact List.mergeSort_of_pairwise (by decide)
  simp only [Option.bind_eq_some_iff, Option.map_eq_some_iff, Prod.mk.injEq] at turns
  obtain ⟨opening, first, fresh, freshFound, third, seventh, node, found,
    ⟨openingTick, openingIndex, freshReady, empty⟩, thirdTick, thirdIndex, ready, queued⟩ := turns
  obtain ⟨result, final, ran, ends, sent, punctual⟩ :=
    deliveries_punctual built window (.initial 0 ()) many
  have firstIn := List.mem_of_getElem? first
  have seventhIn := List.mem_of_getElem? seventh
  obtain ⟨blank, quiet, rested, finds⟩ := punctual opening firstIn fresh freshFound freshReady
  obtain ⟨view, stepped, plays, reads⟩ := punctual third seventhIn node found ready
  rw [openingIndex, inbox] at finds
  rw [thirdIndex, inbox] at reads
  obtain ⟨zeros, low⟩ := finds.blank (by rw [openingTick]; decide)
  obtain ⟨-, words, flag⟩ := reads.reads 1 _ (by rw [thirdTick]; rfl) rfl
  refine ⟨network, opening, third, fresh, node, blank, view, quiet, stepped, built, window,
    .initial 0 (), many, ⟨result, final, ran, ends, sent.trans count⟩,
    ⟨firstIn, openingTick, openingIndex, freshFound, freshReady, rested, ?_, zeros, low⟩, seventhIn,
    thirdTick, thirdIndex, found, ready, queued, plays, ?_, words, flag⟩
  · rw [rested.received, empty]
    rfl
  · rw [plays.received, queued]
    rfl

end Network

end Lockstep
