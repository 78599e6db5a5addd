import Lockstep.Proofs.Delivery.Addressing
import Lockstep.Proofs.Election.Telling
import Lockstep.Proofs.Network.Unfolding

/-!
Elections stay within the numbers of the nodes.

However messages are routed, a station in an election tells nothing but what it knows
(`Station.Sincere`). So each number is that of a node not below the station's own, and none ever
falls (`Station.Contends`), and whatever is on its way names a node (`Message.Names`). No step of an
election is a fault, so nothing but a want of buffers ends it early.
-/
namespace Lockstep

/-- The message names one of so many nodes. -/
def Message.Names (count : Nat) (message : Message) : Prop :=
  0 ≤ message.word.toInt ∧ message.word.toInt ≤ (count : Int) - 1

namespace Station

variable {σ : Type} {table : SymbolTable} {bytecode : Bytecode} {station : Station} {full : Bool}
  {shared : σ} {index count : Nat}

/-- Both elections are sincere, whether there is a buffer left or not. -/
theorem AtRest.elects (rests : station.AtRest table) (electoral : table.Electoral)
    (made : Bytecode.leaderElection table = .ok bytecode ∨
      table.Recording ∧ Bytecode.leaderElectionOnChange table = .ok bytecode)
    (running : station.isTerminated = false) :
    Sincere table station (station.step table bytecode.program full shared) := by
  rcases made with always | ⟨recording, onChange⟩
  · exact rests.sincere_always electoral always running
  · exact rests.sincere_onChange recording onChange running

/-- A station of an election among so many nodes: it reads its own number or a greater one, and is
not about to read a smaller one. -/
structure Contends (table : SymbolTable) (index count : Nat) (station : Station) : Prop where
  running : station.isTerminated = false
  own : (index : Int) ≤ (station.memory.read table.nodeId).toInt
  rises : (station.memory.read table.nodeId).toInt ≤ (station.number table).toInt
  most : (station.number table).toInt ≤ (count : Int) - 1
  heard : ∀ message ∈ station.inbox, message.Names count

namespace Contends

theorem seeded (electoral : table.Electoral) (few : count < negativeCount) (inside : index < count)
    (memory : station.memory = .seeded table index count)
    (running : station.isTerminated = false) (inbox : station.inbox = []) :
    station.Contends table index count := by
  obtain ⟨read, prepared⟩ := electoral.own index count
  have word : (Cell.ofCount index).toInt = index := Cell.toInt_ofCount (Nat.lt_trans inside few)
  refine ⟨running, ?_, ?_, ?_, ?_⟩
  · exact Int.le_of_eq (by rw [memory, read, word])
  · exact Int.le_of_eq (by rw [Station.number, memory, read, prepared])
  · rw [Station.number, memory, prepared, word]
    omega
  · rw [inbox]
    intro message member
    cases member

/-- What the station learns names a node, too. -/
theorem learns_le (contends : station.Contends table index count) :
    (station.learns table).toInt ≤ (count : Int) - 1 :=
  Station.learns_le contends.most fun message member => (contends.heard message member).2

theorem step (contends : station.Contends table index count) {stepped : Stepped σ}
    (sincere : Sincere table station stepped) : stepped.station.Contends table index count := by
  refine ⟨sincere.running, ?_, ?_, ?_, ?_⟩
  · rw [sincere.shown]
    exact Int.le_trans contends.own contends.rises
  · rw [sincere.shown, sincere.number]
    exact number_le_learns
  · rw [sincere.number]
    exact contends.learns_le
  · rw [sincere.inbox]
    exact fun message member => contends.heard message (List.mem_of_mem_tail member)

/-- The messages it sends name a node. -/
theorem names (contends : station.Contends table index count) {stepped : Stepped σ}
    (sincere : Sincere table station stepped) {message : Message}
    (sends : stepped.outgoing = some message.payload) : message.Names count := by
  have word : message.word = station.learns table := sincere.sends _ sends
  rw [Message.Names, word]
  refine ⟨?_, contends.learns_le⟩
  calc (0 : Int) ≤ index := Int.natCast_nonneg index
    _ ≤ (station.memory.read table.nodeId).toInt := contends.own
    _ ≤ (station.number table).toInt := contends.rises
    _ ≤ (station.learns table).toInt := number_le_learns

theorem enqueue (contends : station.Contends table index count) {messages : List Message}
    (named : ∀ message ∈ messages, message.Names count) :
    (station.enqueue messages).Contends table index count := by
  rw [enqueue_running contends.running]
  refine ⟨contends.running, contends.own, contends.rises, contends.most, fun message member => ?_⟩
  rcases List.mem_append.mp member with old | new
  · exact contends.heard message old
  · exact named message new

end Contends

end Station

namespace Network

variable {ρ σ : Type} {network : Network ρ σ} {scene : Scene ρ σ} {tick index : Nat}

/-- An election by one program or the other, on a table made for it. -/
structure Electing (network : Network ρ σ) (bytecode : Bytecode) : Prop where
  electoral : network.table.Electoral
  made : Bytecode.leaderElection network.table = .ok bytecode ∨
    network.table.Recording ∧ Bytecode.leaderElectionOnChange network.table = .ok bytecode
  runs : ∀ index, network.program index = bytecode.program
  few : network.config.nodeCount < negativeCount

/-- Every station contends, and every message on its way names a node. -/
structure Scene.Contested (network : Network ρ σ) (scene : Scene ρ σ) : Prop where
  stations : ∀ (index : Nat) (station : Station), scene.stations[index]? = some station →
    station.Contends network.table index network.config.nodeCount
  transit : ∀ message ∈ scene.transit, message.Names network.config.nodeCount

/-- No station reads a smaller number in the later scene. -/
def Scene.Rises (network : Network ρ σ) (before after : Scene ρ σ) : Prop :=
  ∀ (index : Nat) (station : Station), before.stations[index]? = some station →
    ∃ later, after.stations[index]? = some later ∧
      (station.memory.read network.table.nodeId).toInt ≤
        (later.memory.read network.table.nodeId).toInt

theorem Scene.Rises.trans {middle after : Scene ρ σ} (first : Scene.Rises network scene middle)
    (second : Scene.Rises network middle after) : Scene.Rises network scene after := by
  intro index station found
  obtain ⟨between, listed, lower⟩ := first index station found
  obtain ⟨later, last, upper⟩ := second index between listed
  exact ⟨later, last, Int.le_trans lower upper⟩

namespace Electing

variable {bytecode : Bytecode}

theorem sincere (electing : network.Electing bytecode) (sound : scene.Sound network)
    (contested : scene.Contested network) {station : Station}
    (found : scene.stations[index]? = some station) :
    Station.Sincere network.table station (network.plainStep station scene index) := by
  rw [plainStep, electing.runs]
  exact (sound.rests station (List.mem_of_getElem? found)).elects electing.electoral electing.made
    (contested.stations index station found).running

theorem opening (electing : network.Electing bytecode) (random : ρ) (shared : σ) :
    (network.opening random shared).Contested network := by
  constructor
  · intro index station found
    obtain ⟨inside, rfl⟩ := opening_found found
    exact .seeded electing.electoral electing.few inside rfl rfl rfl
  · intro message member
    cases member

theorem turn (electing : network.Electing bytecode) (sound : scene.Sound network)
    (contested : scene.Contested network) (tick : Nat)
    (inside : index < network.config.nodeCount) :
    (leftBy (network.plainTurn tick scene index)).Contested network := by
  obtain ⟨station, found⟩ := sound.found inside
  have sincere := electing.sincere sound contested found
  have contends := contested.stations index station found
  obtain ⟨stations, transit, -⟩ := leftBy_plainTurn network tick found
  constructor
  · intro probe other listed
    rw [stations] at listed
    rcases found_of_set listed with ⟨rfl, rfl⟩ | ⟨-, before⟩
    · exact contends.step sincere
    · exact contested.stations probe other before
  · intro message member
    rw [transit] at member
    rcases List.mem_append.mp member with old | sent
    · exact contested.transit message old
    · obtain ⟨sender, payload, same, sends, rfl, -⟩ := mem_sentIn sent
      rw [found] at same
      cases same
      exact contends.names sincere sends

theorem rises (electing : network.Electing bytecode) (sound : scene.Sound network)
    (contested : scene.Contested network) (tick : Nat)
    (inside : index < network.config.nodeCount) :
    Scene.Rises network scene (leftBy (network.plainTurn tick scene index)) := by
  obtain ⟨station, found⟩ := sound.found inside
  obtain ⟨stations, -⟩ := leftBy_plainTurn network tick found
  intro probe before was
  rw [stations]
  by_cases own : index = probe
  · subst own
    rw [found] at was
    cases was
    refine ⟨_, List.getElem?_set_self (List.getElem?_eq_some_iff.mp found).1, ?_⟩
    rw [(electing.sincere sound contested found).shown]
    exact (contested.stations index station found).rises
  · exact ⟨before, (List.getElem?_set_ne own).trans was, Int.le_refl _⟩

end Electing

theorem Scene.Contested.deliverDue (contested : scene.Contested network) (tick : Nat) :
    (scene.deliverDue tick).Contested network := by
  obtain ⟨transit, -⟩ := deliverDue_rest tick scene
  constructor
  · intro index station found
    rw [stations_deliverDue, Option.map_eq_some_iff] at found
    obtain ⟨before, listed, rfl⟩ := found
    refine (contested.stations index before listed).enqueue fun message member => ?_
    exact contested.transit message (List.mem_filter.mp (List.mem_filter.mp member).1).1
  · intro message member
    rw [transit] at member
    exact contested.transit message (List.mem_filter.mp member).1

theorem Scene.Contested.countTick (contested : scene.Contested network) :
    scene.countTick.Contested network := by
  obtain ⟨stations, transit, -⟩ := countTick_rest scene
  constructor
  · rw [stations]
    exact contested.stations
  · rw [transit]
    exact contested.transit

/-- Delivery changes nothing that a station reads. -/
theorem Scene.rises_deliverDue (network : Network ρ σ) (scene : Scene ρ σ) (tick : Nat) :
    Scene.Rises network scene (scene.deliverDue tick) := by
  intro index station found
  rw [stations_deliverDue, found, Option.map_some]
  refine ⟨_, rfl, ?_⟩
  unfold Station.enqueue
  split <;> exact Int.le_refl _

theorem Scene.rises_countTick (network : Network ρ σ) (scene : Scene ρ σ) :
    Scene.Rises network scene scene.countTick := by
  obtain ⟨stations, -⟩ := countTick_rest scene
  intro index station found
  rw [stations]
  exact ⟨station, found, Int.le_refl _⟩

/-- A turn of the past was no fault, and no number has fallen since. -/
def Turn.Upheld (network : Network ρ σ) (turn : Turn ρ σ) (scene : Scene ρ σ) : Prop :=
  (∃ shown, Depicts network [] turn.before shown ∧ Scene.Rises network shown scene) ∧
    ∃ stepped, turn.stepped network = .ok stepped ∧
      ∀ fault, stepped.outcome ≠ .failed (.fault fault)

theorem Turn.Upheld.onwards {turn : Turn ρ σ} {after : Scene ρ σ} (upheld : turn.Upheld network scene)
    (rises : Scene.Rises network scene after) : turn.Upheld network after := by
  obtain ⟨⟨shown, depicts, before⟩, sane⟩ := upheld
  exact ⟨⟨shown, depicts, before.trans rises⟩, sane⟩

theorem Electing.invariant {bytecode : Bytecode} (electing : network.Electing bytecode)
    (start : State ρ σ) :
    network.Invariant start fun past _ _ scene =>
      scene.Contested network ∧ ∀ turn ∈ past, turn.Upheld network scene where
  begins := ⟨electing.opening _ _, fun turn member => by cases member⟩
  turn := by
    rintro past now scene depicts sound inside ⟨contested, upheld⟩
    have rises := electing.rises sound contested now.tick inside
    refine ⟨electing.turn sound contested now.tick inside, fun turn member => ?_⟩
    rcases List.mem_append.mp member with earlier | last
    · exact (upheld turn earlier).onwards rises
    · obtain rfl := List.mem_singleton.mp last
      obtain ⟨node, found⟩ := depicts.found inside
      obtain ⟨stepped, plain, ran, steps⟩ := turn.steps electing.electoral.valid depicts found
      have sincere := electing.sincere sound contested (depicts.station found)
      refine ⟨⟨scene, depicts, rises⟩, stepped, ran, fun fault failed => ?_⟩
      rw [steps.outcome, ← steps.plainly] at failed
      exact sincere.lasting fault failed
  deliver := by
    rintro past number scene - ⟨contested, upheld⟩
    exact ⟨contested.deliverDue _, fun turn member =>
      (upheld turn member).onwards (scene.rises_deliverDue network _)⟩
  next := by
    rintro past number scene - ⟨contested, upheld⟩
    exact ⟨contested.countTick, fun turn member =>
      (upheld turn member).onwards (scene.rises_countTick network)⟩

/-! ### States -/

/-- Every node reads its own number or a greater one, and it is a node's, and every message that
has not been consumed names a node. -/
structure State.Numbered (network : Network ρ σ) (state : State ρ σ) : Prop where
  nodes : ∀ (index : Nat) (node : Node), state.nodes[index]? = some node →
    (index : Int) ≤ (node.memory.read network.table.nodeId).toInt ∧
      (node.memory.read network.table.nodeId).toInt ≤ (network.config.nodeCount : Int) - 1
  messages : ∀ slot ∈ state.held, (state.pool.letter slot).Names network.config.nodeCount

theorem Scene.Contested.numbered {state : State ρ σ} (contested : scene.Contested network)
    (depicts : Depicts network [] state scene) : state.Numbered network := by
  constructor
  · intro index node found
    have contends := contested.stations index _ (depicts.station found)
    exact ⟨contends.own, Int.le_trans contends.rises contends.most⟩
  · intro slot held
    rcases List.mem_append.mp held with waiting | queued
    · obtain ⟨tick, due⟩ := Schedule.mem_slots.mp waiting
      have letter : state.pool.letter slot ∈ scene.transit.filter (·.arrival == tick) := by
        rw [← depicts.due]
        exact List.mem_map_of_mem due
      exact contested.transit _ (List.mem_filter.mp letter).1
    · obtain ⟨node, member, inside⟩ := List.mem_flatMap.mp queued
      obtain ⟨index, found⟩ := List.getElem?_of_mem member
      rw [Array.getElem?_toList] at found
      exact (contested.stations index _ (depicts.station found)).heard _
        (List.mem_map_of_mem inside)

/-- No node reads a smaller number in the later state. -/
def State.Rises (network : Network ρ σ) (before after : State ρ σ) : Prop :=
  ∀ (index : Nat) (node : Node), before.nodes[index]? = some node →
    ∃ later, after.nodes[index]? = some later ∧
      (node.memory.read network.table.nodeId).toInt ≤
        (later.memory.read network.table.nodeId).toInt

theorem Scene.Rises.state {before state : State ρ σ} {after : Scene ρ σ}
    (rises : Scene.Rises network scene after) (depicts : Depicts network [] before scene)
    (shown : Depicts network [] state after) : State.Rises network before state := by
  intro index node found
  obtain ⟨station, listed, least⟩ := rises index _ (depicts.station found)
  obtain ⟨later, last⟩ := shown.found (shown.length ▸ (List.getElem?_eq_some_iff.mp listed).1)
  rw [shown.station last] at listed
  cases listed
  exact ⟨later, last, least⟩

/-- There is a network for an election of either kind, whatever its router and its delays. -/
theorem exists_electing {config : NetworkConfig} (settings : config.Valid)
    (few : config.nodeCount < negativeCount) {layout : TableLayout} (extras : List SymbolSpec)
    (onChange : Bool) (counts : onChange = true → 1 ≤ layout.variableCount) (router : Router)
    (source : Source ρ) :
    ∃ (bytecode : Bytecode) (network : Network ρ σ),
      (if onChange then Bytecode.leaderElectionOnChange (.create layout extras)
        else Bytecode.leaderElection (.create layout extras)) = .ok bytecode ∧
      Network.build (.create layout extras) config (fun _ => bytecode.program) router source =
        .ok network ∧ network.config = config ∧ network.Electing bytecode := by
  have electoral := SymbolTable.electoral_create layout extras
  cases onChange with
  | false =>
    obtain ⟨bytecode, made⟩ : ∃ bytecode,
        Bytecode.leaderElection (.create layout extras) = .ok bytecode :=
      ⟨_, Bytecode.leaderElection_eq electoral.receives electoral.sends⟩
    exact ⟨bytecode, _, made, build_eq_ok.mpr ⟨settings, electoral.valid, rfl⟩, rfl, electoral,
      .inl made, fun _ => rfl, few⟩
  | true =>
    have recording := SymbolTable.recording_create (counts rfl) extras
    obtain ⟨bytecode, made⟩ : ∃ bytecode,
        Bytecode.leaderElectionOnChange (.create layout extras) = .ok bytecode :=
      ⟨_, Bytecode.leaderElectionOnChange_eq electoral.receives electoral.sends recording.counts⟩
    exact ⟨bytecode, _, made, build_eq_ok.mpr ⟨settings, electoral.valid, rfl⟩, rfl, electoral,
      .inr ⟨recording, made⟩, fun _ => rfl, few⟩

/-- How a run of an election ends. -/
theorem Electing.run {bytecode : Bytecode} (electing : network.Electing bytecode)
    {start : State ρ σ} (resting : network.Resting start) (maxTicks : Nat) :
    ∃ result final, network.run maxTicks start = .ok (result, final) ∧ final.Numbered network ∧
      (∀ turn ∈ network.history maxTicks start, State.Rises network turn.before final) ∧
      (∀ fault, result.failureCause ≠ some (.programFault fault)) ∧
      ∀ (index : Nat) (node : Node), final.nodes[index]? = some node →
        result.nodes[index]? = some (reportNode node) := by
  have valid := electing.electoral.valid
  have sound := resting.sound valid
  obtain ⟨result, final, ran, ends⟩ := run_ends valid sound maxTicks
  obtain ⟨shown, depicts, ended⟩ := ends.shows (electing.invariant start) valid sound
  refine ⟨result, final, ran, ?_⟩
  have rising : ∀ turn ∈ network.history maxTicks start, turn.Upheld network shown →
      State.Rises network turn.before final := by
    rintro turn - ⟨⟨before, listed, rises⟩, -⟩
    exact rises.state listed depicts
  rcases ended with ⟨ticks, -, rfl, contested, upheld⟩ |
    ⟨past, turn, cause, -, whole, fails, rfl, contested, upheld⟩
  · exact ⟨contested.numbered depicts, fun turn member => rising turn member (upheld turn member),
      nofun, fun index node found => depicts.report_node found⟩
  · refine ⟨contested.numbered depicts, fun turn member => rising turn member (upheld turn member),
      ?_, fun index node found => depicts.report_node found⟩
    obtain ⟨scene, taken, before, soundScene, rfl, earlier, -⟩ :=
      (electing.invariant start).shows valid sound fails.unfolds
    have inside : turn.index < network.config.nodeCount := before.sound.count ▸ fails.inside
    obtain ⟨station, found⟩ := soundScene.found inside
    have refines := turn_refines turn.tick valid before inside
    rw [fails.failed] at refines
    obtain ⟨failure, known, -, -, rfl⟩ := refines.of_failure
    have lasting := (electing.sincere soundScene earlier found).lasting
    obtain ⟨-, cause⟩ := plainTurn_cause found known
    rw [cause.resolve_left fun ⟨fault, failed, _⟩ => lasting fault failed]
    exact nofun

/-- Whatever the router and the delays, and however often there are no buffers left: at every moment
of every run of an election, each node has its own number or a greater one, which is a node's and no
smaller than at any turn before, every message that has not been consumed names a node, and no step
has been a fault. -/
theorem elections_stay_within {config : NetworkConfig} (nodes : 1 ≤ config.nodeCount)
    (few : config.nodeCount < negativeCount) (positive : 0 < config.minDelay)
    (ordered : config.minDelay ≤ config.maxDelay) (buffers : 0 < config.capacity)
    {layout : TableLayout} (extras : List SymbolSpec) (onChange : Bool)
    (counts : onChange = true → 1 ≤ layout.variableCount) (router : Router) (source : Source ρ) :
    ∃ (bytecode : Bytecode) (network : Network ρ σ),
      (if onChange then Bytecode.leaderElectionOnChange (.create layout extras)
        else Bytecode.leaderElection (.create layout extras)) = .ok bytecode ∧
      Network.build (.create layout extras) config (fun _ => bytecode.program) router source =
        .ok network ∧
      ∀ start, network.Resting start →
        (∀ past number stage state, network.Unfolds start past number stage state →
          state.Numbered network ∧ ∀ turn ∈ past, State.Rises network turn.before state ∧
            ∃ stepped, turn.stepped network = .ok stepped ∧
              ∀ fault, stepped.outcome ≠ .failed (.fault fault)) ∧
        ∀ maxTicks, ∃ result final, network.run maxTicks start = .ok (result, final) ∧
          final.Numbered network ∧
          (∀ turn ∈ network.history maxTicks start, State.Rises network turn.before final) ∧
          (∀ fault, result.failureCause ≠ some (.programFault fault)) ∧
          ∀ (index : Nat) (node : Node), final.nodes[index]? = some node →
            result.nodes[index]? = some (reportNode node) := by
  obtain ⟨bytecode, network, made, built, rfl, electing⟩ :=
    exists_electing (σ := σ) ⟨nodes, positive, ordered, buffers⟩ few extras onChange counts router
      source
  refine ⟨bytecode, network, made, built, fun start resting => ⟨?_, electing.run resting⟩⟩
  intro past number stage state unfolds
  have valid := electing.electoral.valid
  obtain ⟨scene, taken, depicts, -, -, contested, upheld⟩ :=
    (electing.invariant start).shows valid (resting.sound valid) unfolds
  refine ⟨contested.numbered depicts, fun turn member => ?_⟩
  obtain ⟨⟨shown, before, rises⟩, sane⟩ := upheld turn member
  exact ⟨rises.state before depicts, sane⟩

/-- Every message goes to the first of three nodes twice and to its own sender, too, until there are no
buffers left in the fourth tick. By then the first two nodes know of the second. -/
theorem elections_stay_within_echo :
    ∃ (bytecode : Bytecode) (network : Network Nat Unit) (result : RunResult)
      (final : State Nat Unit),
      Bytecode.leaderElectionOnChange .standard = .ok bytecode ∧
        Network.build .standard { nodeCount := 3, capacity := 13 } (fun _ => bytecode.program)
          (Router.fixed [0, 0, 2, 1]) (Source.cycle [1, 3]) = .ok network ∧
        network.run 12 (network.initial 0 ()) = .ok (result, final) ∧
        result.outcome = .failed 3 0 (.resourceExhausted 13) ∧
        result.symbolValues network.table.nodeId = [1, 1, 2] ∧ final.Numbered network ∧
        ∀ turn ∈ network.history 12 (network.initial 0 ()),
          State.Rises network turn.before final := by
  obtain ⟨bytecode, network, made, built, safe⟩ := @elections_stay_within Nat Unit
    { nodeCount := 3, capacity := 13 } (by decide) (by decide) (by decide) (by decide) (by decide) {}
    [] true (fun _ => by decide) (Router.fixed [0, 0, 2, 1]) (Source.cycle [1, 3])
  obtain ⟨result, final, ran, numbered, rises, -⟩ := (safe _ (.initial 0 ())).2 12
  have evaluated : (Bytecode.leaderElectionOnChange .standard).toOption.bind (fun bytecode =>
      (Network.build .standard { nodeCount := 3, capacity := 13 }
        (fun _ => bytecode.program (σ := Unit)) (Router.fixed [0, 0, 2, 1])
        (Source.cycle [1, 3])).toOption.bind fun network =>
          (network.run 12 (network.initial 0 ())).toOption.map fun ran =>
            (ran.1.outcome, ran.1.symbolValues network.table.nodeId)) =
      some (.failed 3 0 (.resourceExhausted 13), [1, 1, 2]) := by
    decide +kernel
  have standard : SymbolTable.create {} [] = .standard := rfl
  rw [if_pos rfl, standard] at made
  rw [standard] at built
  simp only [made, built, ran, Except.toOption, Option.bind_some, Option.map_some, Option.some.injEq,
    Prod.mk.injEq] at evaluated
  exact ⟨bytecode, network, result, final, made, built, ran, evaluated.1, evaluated.2, numbered,
    rises⟩

end Network

end Lockstep
