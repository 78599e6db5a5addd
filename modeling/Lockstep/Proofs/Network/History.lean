import Lockstep.Proofs.Network.Moments
import Lockstep.Proofs.Network.Pace

/-!
The turns of a run and the messages sent in them.

`history` are the turns a run takes, each with the state it found, and `log` the messages they
schedule: the words in the send cells as the program left them, once for each destination that got a
buffer. A turn of a running node takes a message off its queue and runs the program on what it then
finds (`Turn.plays`). `Followed` says that along a history the scenes keep pace with the log.
-/
namespace Lockstep.Network

variable {ρ σ : Type} {network : Network ρ σ}

/-- A turn of a run. -/
structure Turn (ρ σ : Type) where
  tick : Nat
  index : Nat
  /-- The state that the turn found. -/
  before : State ρ σ

namespace Turn

/-- The step of a turn. -/
def stepped (network : Network ρ σ) (turn : Turn ρ σ) : Except Breach (Node.Stepped σ) := do
  let node ← turn.before.node turn.index
  node.step network.table (network.program turn.index) turn.before.pool turn.before.shared

/-- The memory that the program of a turn starts on: its message, if there is one, has been
delivered and the rows have been rolled. -/
def view (network : Network ρ σ) (turn : Turn ρ σ) : Except Breach Memory := do
  let node ← turn.before.node turn.index
  let (_, node, _) ← node.consume network.table turn.before.pool
  return node.memory.roll network.table

/-- The messages that a turn schedules, in order. Those that the router names get the words in the
send cells as the program has left them. If there is no buffer for each, there are messages for as
many as there are copies to be had. -/
def letters (network : Network ρ σ) (turn : Turn ρ σ) : List Message :=
  match turn.stepped network with
  | .error _ => []
  | .ok stepped =>
    match stepped.node.outbox, stepped.node.memory.payload network.table with
    | some _, .ok payload =>
      let destinations := network.destinations turn.index payload turn.before.nodes.size
      let served :=
        if destinations.length ≤ stepped.pool.available + 1 then destinations
        else destinations.take stepped.pool.available
      (network.address turn.tick turn.index payload served turn.before.random).1
    | _, _ => []

/-- The state that a turn ends in, whether it goes through or fails. -/
def EndsIn (network : Network ρ σ) (turn : Turn ρ σ) (after : State ρ σ) : Prop :=
  network.turn turn.tick turn.before turn.index = .ok after ∨
    ∃ cause, network.turn turn.tick turn.before turn.index =
      .error (.failure after turn.index cause)

/-- What a turn does in which a node runs its program. -/
structure Plays (network : Network ρ σ) (turn : Turn ρ σ) (node : Node) (view : Memory)
    (stepped : Node.Stepped σ) : Prop where
  seen : turn.view network = .ok view
  ran : turn.stepped network = .ok stepped
  /-- The program is run on the view, and the step keeps the memory and the state it leaves. -/
  played : ∃ signal requested,
    (network.program turn.index node.place turn.before.shared).run network.table view false =
      .ok ((stepped.shared, signal), stepped.node.memory, requested)
  /-- Nothing the program does changes what it reads. -/
  current : stepped.node.memory.current = view.current
  /-- The first message has left the queue. The others stay in it unless the node halts. -/
  queue : stepped.node.pending.map stepped.pool.letter =
    if stepped.node.isTerminated then [] else node.pending.tail.map turn.before.pool.letter
  received : stepped.node.received = node.received + min 1 node.pending.length
  /-- It is this step that the run goes on from. -/
  kept : ∃ after last, turn.EndsIn network after ∧ after.nodes[turn.index]? = some last ∧
    last.portray after.pool = stepped.node.portray stepped.pool

end Turn

/-- The turns that some nodes take in a tick, one after another, up to the first that fails. -/
def turnsOf (network : Network ρ σ) (tick : Nat) : List Nat → State ρ σ → List (Turn ρ σ)
  | [], _ => []
  | index :: rest, state =>
    ⟨tick, index, state⟩ ::
      match network.turn tick state index with
      | .ok after => network.turnsOf tick rest after
      | .error _ => []

/-- The turns of at most `remaining` more ticks, the first of which is `number`. -/
def turnsFrom (network : Network ρ σ) : (remaining number : Nat) → State ρ σ → List (Turn ρ σ)
  | 0, _, _ => []
  | remaining + 1, number, state =>
    network.turnsOf number (List.range state.nodes.size) state ++
      match network.tick number state with
      | .error _ => []
      | .ok after =>
        if after.allTerminated || network.quiescent after then []
        else network.turnsFrom remaining (number + 1) after

/-- The turns of a run. -/
def history (network : Network ρ σ) (maxTicks : Nat) (start : State ρ σ) : List (Turn ρ σ) :=
  match network.begin start with
  | .error _ => []
  | .ok first => network.turnsFrom maxTicks 0 first

/-- The messages scheduled in a run, in order. -/
def log (network : Network ρ σ) (maxTicks : Nat) (start : State ρ σ) : List Message :=
  (network.history maxTicks start).flatMap (Turn.letters network)

/-- The messages scheduled to a node in a run, by arrival, and those that arrive together in the
order they were scheduled. -/
def inbox (network : Network ρ σ) (maxTicks : Nat) (start : State ρ σ) (index : Nat) :
    List Message :=
  inOrder ((network.log maxTicks start).filter (·.destination == index))

/-! ### Turns and their scenes -/

variable {state : State ρ σ} {scene : Scene ρ σ}

/-- The step of a turn shows the plain step. -/
theorem Turn.steps (valid : network.table.Valid) {turn : Turn ρ σ} {node : Node}
    (depicts : Depicts network [] turn.before scene)
    (found : turn.before.nodes[turn.index]? = some node) :
    ∃ stepped plain, turn.stepped network = .ok stepped ∧
      Steps network turn.before scene turn.index node stepped plain := by
  obtain ⟨stepped, plain, steps⟩ := Network.steps valid depicts found
  refine ⟨stepped, plain, ?_, steps⟩
  simp only [Turn.stepped, State.node, found, steps.ran, bind, Except.bind]

/-- A turn schedules what it sends on the scene. -/
theorem letters_eq (valid : network.table.Valid) {turn : Turn ρ σ} {node : Node}
    (depicts : Depicts network [] turn.before scene)
    (found : turn.before.nodes[turn.index]? = some node) :
    turn.letters network = (network.sentIn turn.tick scene turn.index).1 := by
  obtain ⟨stepped, plain, ran, steps⟩ := turn.steps valid depicts found
  have count : turn.before.nodes.size = scene.stations.length :=
    depicts.sound.count.trans depicts.length.symm
  simp only [Turn.letters, ran, sentIn, depicts.station found, steps.plainly]
  cases sends : plain.outgoing with
  | none => rw [steps.outbox_none sends]
  | some payload =>
    obtain ⟨slot, outbox, -⟩ := steps.outbox_some sends
    have words : stepped.node.memory.payload network.table = .ok payload := by
      rw [Memory.payload_eq valid steps.fits, steps.memory, ← steps.plainly]
      rw [← steps.plainly] at sends
      exact congrArg Except.ok (Station.outgoing_eq sends).symm
    -- the buffer in the outbox is the last one there is room for
    have available : stepped.pool.available + 1 =
        network.room (scene.setStation turn.index plain.station) := by
      have moved := steps.depicts
      rw [outbox] at moved
      have inUse : stepped.pool.inUse = 1 + (scene.setStation turn.index plain.station).live :=
        moved.inUse
      have bounded := Nat.le_trans moved.sound.owned.marked moved.sound.owned.bounded
      rw [Pool.available, room, inUse, steps.capacity]
      rw [inUse, steps.capacity] at bounded
      omega
    have last : stepped.pool.available =
        network.room (scene.setStation turn.index plain.station) - 1 := by
      omega
    simp only [outbox, words, available, count, depicts.random, served]
    rw [last]

/-- A running node's program starts on the memory of its station. -/
theorem view_eq (valid : network.table.Valid) {turn : Turn ρ σ} {node : Node}
    (depicts : Depicts network [] turn.before scene)
    (found : turn.before.nodes[turn.index]? = some node) :
    turn.view network =
      .ok (((node.portray turn.before.pool).consume network.table).memory.roll network.table) := by
  have owned : turn.before.pool.Holds (node.pending ++ turn.before.others turn.index) :=
    depicts.sound.owned.perm (held_split found)
  obtain ⟨fed, after, taken, portrait, -⟩ := Node.consume_shows valid (depicts.node_sound found)
    owned depicts.sound.payloadSize
  have read : turn.before.node turn.index = .ok node := by
    rw [State.node, found]
  have memory : fed.memory = ((node.portray turn.before.pool).consume network.table).memory :=
    congrArg Station.memory portrait
  simp only [Turn.view, read, taken, bind, Except.bind, pure, Except.pure, memory]

/-- The scene shows the state that a turn ends in. -/
theorem turn_ends (valid : network.table.Valid) {turn : Turn ρ σ} {node : Node}
    (depicts : Depicts network [] turn.before scene)
    (found : turn.before.nodes[turn.index]? = some node) :
    ∃ after, turn.EndsIn network after ∧
      Depicts network [] after (leftBy (network.plainTurn turn.tick scene turn.index)) := by
  have inside : turn.index < network.config.nodeCount :=
    depicts.sound.count ▸ (Array.getElem?_eq_some_iff.mp found).1
  have refines := turn_refines turn.tick valid depicts inside
  cases plain : network.plainTurn turn.tick scene turn.index with
  | ok shown =>
    obtain ⟨after, ran, depictsAfter⟩ := refines.exists_ok plain
    exact ⟨after, .inl ran, depictsAfter⟩
  | error failure =>
    obtain ⟨after, ran, depictsAfter⟩ := refines.exists_failure plain
    obtain ⟨blamed, -⟩ := plainTurn_cause (depicts.station found) plain
    rw [blamed] at ran
    exact ⟨after, .inr ⟨_, ran⟩, depictsAfter⟩

/-- A running node consumes its first message and runs its program on the memory of its station. -/
theorem Turn.plays (valid : network.table.Valid) (turn : Turn ρ σ) {node : Node}
    (depicts : Depicts network [] turn.before scene) (sound : scene.Sound network)
    (found : turn.before.nodes[turn.index]? = some node) (ready : node.state = .ready) :
    ∃ stepped, turn.Plays network node
      (((node.portray turn.before.pool).consume network.table).memory.roll network.table)
      stepped := by
  obtain ⟨stepped, plain, taken, steps⟩ := turn.steps valid depicts found
  have listed := depicts.station found
  have portrait := steps.portrait found
  have played : Station.Ran network.table (node.portray turn.before.pool)
      ((node.portray turn.before.pool).perform network.table (network.program turn.index)
        scene.shared) plain := by
    rw [← steps.plainly]
    exact Station.step_running (Node.portray_running ready)
  refine ⟨stepped, view_eq valid depicts found, taken, ?played, ?current, ?queue, ?received, ?kept⟩
  case played =>
    have fits := ((sound.rests _ (List.mem_of_getElem? listed)).consume_fits valid).roll
    have ran := Interaction.run_eq valid
      (network.program turn.index node.place scene.shared) fits false
    rw [steps.shared, steps.memory, played.shared, played.memory, ← depicts.shared]
    exact ⟨_, _, ran⟩
  case current =>
    rw [steps.memory, played.memory]
    exact Interaction.play_current _
  case queue =>
    have inbox := played.inbox
    rw [← portrait] at inbox
    rw [List.map_tail]
    exact inbox
  case received =>
    have received := played.received
    rw [← portrait] at received
    simpa only [Node.portray, List.length_map] using received
  case kept =>
    obtain ⟨after, ends, shown⟩ := turn_ends valid depicts found
    obtain ⟨last, own⟩ := shown.found
      (depicts.sound.count ▸ (Array.getElem?_eq_some_iff.mp found).1)
    refine ⟨after, last, ends, own, ?_⟩
    rw [portrait_left listed shown own, portrait, ← steps.plainly]

/-! ### Keeping pace along a history -/

/-- At each turn of a list there is a scene that shows it and has come from the messages so far, and
what the turn sends arrives later. -/
def Followed (network : Network ρ σ) : List (Turn ρ σ) → List Message → Prop
  | [], _ => True
  | turn :: rest, log =>
    (∃ scene, Depicts network [] turn.before scene ∧ scene.Sound network ∧
      Tracks log turn.tick turn.index scene ∧ turn.index < network.config.nodeCount) ∧
    (∀ message ∈ turn.letters network, turn.tick < message.arrival) ∧
    (∀ later ∈ rest, turn.tick ≤ later.tick) ∧
    Followed network rest (log ++ turn.letters network)

theorem followed_append {first second : List (Turn ρ σ)} {log : List Message}
    (start : network.Followed first log)
    (rest : network.Followed second (log ++ first.flatMap (Turn.letters network)))
    (ordered : ∀ turn ∈ first, ∀ later ∈ second, turn.tick ≤ later.tick) :
    network.Followed (first ++ second) log := by
  induction first generalizing log with
  | nil => simpa using rest
  | cons turn first ih =>
    obtain ⟨shown, late, sorted, followed⟩ := start
    obtain ⟨here, later⟩ := List.forall_mem_cons.mp ordered
    refine ⟨shown, late, fun other member => ?_, ih followed ?_ later⟩
    · cases List.mem_append.mp member with
      | inl inside => exact sorted other inside
      | inr after => exact here other after
    · rwa [List.append_assoc, ← List.flatMap_cons]

theorem Followed.late {turns : List (Turn ρ σ)} {log : List Message} {tick : Nat}
    (followed : network.Followed turns log) (after : ∀ turn ∈ turns, tick ≤ turn.tick) :
    ∀ message ∈ turns.flatMap (Turn.letters network), tick < message.arrival := by
  induction turns generalizing log with
  | nil =>
    intro message member
    cases member
  | cons head rest ih =>
    obtain ⟨-, late, -, followed⟩ := followed
    obtain ⟨here, later⟩ := List.forall_mem_cons.mp after
    rw [List.flatMap_cons]
    intro message member
    cases List.mem_append.mp member with
    | inl own => exact Nat.lt_of_le_of_lt here (late message own)
    | inr other => exact ih followed later message other

/-- What follows a turn in a history is sent after what the turn finds. -/
theorem Followed.of_mem {turns : List (Turn ρ σ)} {log : List Message} {turn : Turn ρ σ}
    (followed : network.Followed turns log) (member : turn ∈ turns) :
    ∃ scene earlier later, Depicts network [] turn.before scene ∧ scene.Sound network ∧
      Tracks earlier turn.tick turn.index scene ∧ turn.index < network.config.nodeCount ∧
      log ++ turns.flatMap (Turn.letters network) = earlier ++ later ∧
      ∀ message ∈ later, turn.tick < message.arrival := by
  induction turns generalizing log with
  | nil => cases member
  | cons head rest ih =>
    obtain ⟨⟨scene, depicts, sound, tracks, inside⟩, late, sorted, followed⟩ := followed
    rcases List.mem_cons.mp member with rfl | inRest
    · refine ⟨scene, log, (turn :: rest).flatMap (Turn.letters network), depicts, sound, tracks,
        inside, rfl, ?_⟩
      rw [List.flatMap_cons]
      intro message member
      cases List.mem_append.mp member with
      | inl own => exact late message own
      | inr other => exact followed.late sorted message other
    · obtain ⟨scene, earlier, later, facts⟩ := ih followed inRest
      refine ⟨scene, earlier, later, ?_⟩
      rwa [List.append_assoc, ← List.flatMap_cons] at facts

theorem tick_of_mem_turnsOf {tick : Nat} {indices : List Nat} {turn : Turn ρ σ}
    (member : turn ∈ network.turnsOf tick indices state) : turn.tick = tick := by
  induction indices generalizing state with
  | nil => cases member
  | cons index rest ih =>
    rcases List.mem_cons.mp member with rfl | later
    · rfl
    · split at later
      · exact ih later
      · cases later

theorem tick_of_mem_turnsFrom {remaining number : Nat} {turn : Turn ρ σ}
    (member : turn ∈ network.turnsFrom remaining number state) : number ≤ turn.tick := by
  induction remaining generalizing number state with
  | zero => cases member
  | succ remaining ih =>
    cases List.mem_append.mp member with
    | inl now => exact Nat.le_of_eq (tick_of_mem_turnsOf now).symm
    | inr later =>
      split at later
      · cases later
      · split at later
        · cases later
        · exact Nat.le_of_succ_le (ih later)

/-- The turns of a tick keep pace, and so does what they lead to. -/
theorem turnsOf_followed (valid : network.table.Valid) (window : network.InWindow)
    (positive : 0 < network.config.minDelay) {tick taken count : Nat} (bounded : tick < lastTick)
    (total : taken + count = network.config.nodeCount) {log : List Message}
    (depicts : Depicts network [] state scene) (sound : scene.Sound network)
    (tracks : Tracks log tick taken scene) :
    let turns := network.turnsOf tick (List.range' taken count) state
    let sent := log ++ turns.flatMap (Turn.letters network)
    network.Followed turns log ∧
      match (List.range' taken count).foldlM (network.turn tick) state with
      | .ok after => ∃ scene, Depicts network [] after scene ∧ scene.Sound network ∧
          Tracks sent tick network.config.nodeCount scene
      | .error (.failure after _ _) => after.tally.sent = sent.length
      | .error (.breach _) => False := by
  induction count generalizing taken state scene log with
  | zero =>
    have all : taken = network.config.nodeCount := total
    refine ⟨trivial, scene, depicts, sound, ?_⟩
    rw [← all]
    simpa [turnsOf] using tracks
  | succ count ih =>
    intro turns sent
    have inside : taken < network.config.nodeCount := by omega
    obtain ⟨node, found⟩ := depicts.found inside
    have late : ∀ message ∈ (network.sentIn tick scene taken).1, tick < message.arrival :=
      window.late positive bounded
    have letters : Turn.letters network ⟨tick, taken, state⟩ =
        (network.sentIn tick scene taken).1 := letters_eq valid depicts found
    have onwards := tracks.turn network (depicts.station found) late
    have soundNext := sound.turn valid tick inside
    have refines := turn_refines tick valid depicts inside
    rw [← letters] at late onwards
    have here : network.Followed [⟨tick, taken, state⟩] log :=
      ⟨⟨scene, depicts, sound, tracks, inside⟩, late, by simp, trivial⟩
    cases ran : network.turn tick state taken with
    | ok after =>
      rw [ran] at refines
      obtain ⟨next, known, shown⟩ := refines.of_ok
      rw [known] at onwards soundNext
      obtain ⟨followed, ended⟩ := ih (by omega) shown soundNext onwards
      have list : turns = [⟨tick, taken, state⟩] ++
          network.turnsOf tick (List.range' (taken + 1) count) after := by
        simp only [turns, List.range'_succ, turnsOf, ran, List.singleton_append]
      have whole : sent = log ++ Turn.letters network ⟨tick, taken, state⟩ ++
          (network.turnsOf tick (List.range' (taken + 1) count) after).flatMap
            (Turn.letters network) := by
        simp only [sent, list, List.flatMap_append, List.flatMap_singleton, List.append_assoc]
      constructor
      · rw [list]
        refine followed_append here (by simpa using followed) fun turn member later inRest => ?_
        exact Nat.le_of_eq ((congrArg Turn.tick (List.mem_singleton.mp member)).trans
          (tick_of_mem_turnsOf inRest).symm)
      · rw [List.range'_succ, List.foldlM_cons, ran, whole]
        exact ended
    | error stop =>
      rw [ran] at refines
      have list : turns = [⟨tick, taken, state⟩] := by
        simp only [turns, List.range'_succ, turnsOf, ran]
      have whole : sent = log ++ Turn.letters network ⟨tick, taken, state⟩ := by
        simp only [sent, list, List.flatMap_singleton]
      refine ⟨list ▸ here, ?_⟩
      rw [List.range'_succ, List.foldlM_cons, ran, whole]
      cases stop with
      | breach breach => exact refines.not_breach
      | failure after node cause =>
        obtain ⟨failure, known, shown, -⟩ := refines.of_failure
        rw [known] at onwards
        exact (congrArg Tally.sent shown.tally).symm.trans onwards.sent

/-- A run keeps pace from one tick to the next. The messages it reports are those in its log. -/
theorem turnsFrom_followed (valid : network.table.Valid) (window : network.InWindow)
    (positive : 0 < network.config.minDelay) {remaining number : Nat}
    (bounded : number + remaining ≤ lastTick) {log : List Message}
    (depicts : Depicts network [] state scene) (sound : scene.Sound network)
    (tracks : Tracks log number 0 scene) :
    let turns := network.turnsFrom remaining number state
    network.Followed turns log ∧
      ∀ result final, network.advance remaining number state = .ok (result, final) →
        result.stats.messagesSent = (log ++ turns.flatMap (Turn.letters network)).length := by
  induction remaining generalizing number state scene log with
  | zero =>
    refine ⟨trivial, fun result final ran => ?_⟩
    cases ran
    rw [turnsFrom, List.flatMap_nil, List.append_nil]
    exact (congrArg Tally.sent depicts.tally).symm.trans tracks.sent
  | succ remaining ih =>
    intro turns
    obtain ⟨followed, ended⟩ := turnsOf_followed valid window positive
      (show number < lastTick by omega) (Nat.zero_add _) depicts sound tracks
    have whole : network.turns number state =
        (List.range' 0 network.config.nodeCount).foldlM (network.turn number) state := by
      rw [Network.turns, depicts.sound.count, List.range_eq_range']
    rw [← whole] at ended
    have first : network.turnsOf number (List.range state.nodes.size) state =
        network.turnsOf number (List.range' 0 network.config.nodeCount) state := by
      rw [depicts.sound.count, List.range_eq_range']
    have ticks : ∀ turn ∈ network.turnsOf number (List.range' 0 network.config.nodeCount) state,
        turn.tick = number := fun turn => tick_of_mem_turnsOf
    simp only [turns, turnsFrom, advance, first]
    generalize network.turnsOf number (List.range' 0 network.config.nodeCount) state = taken at *
    cases turned : network.turns number state with
    | error stop =>
      rw [turned] at ended
      cases stop with
      | breach breach => exact ended.elim
      | failure after node cause =>
        simp only [tick, turned, bind, Except.bind, List.append_nil]
        refine ⟨followed, fun result final ran => ?_⟩
        cases ran
        exact ended
    | ok after =>
      rw [turned] at ended
      obtain ⟨later, shown, soundLater, tracksLater⟩ := ended
      obtain ⟨delivered, due, shownDue⟩ := deliverDue_depicts shown (number + 1)
      have counted := shownDue.countTick
      have tracksNext := (tracksLater.deliverDue (Nat.le_of_eq soundLater.count)).countTick
      simp only [tick, turned, due, guarded_ok, bind, Except.bind, pure, Except.pure]
      cases finished :
          delivered.countTick.allTerminated || network.quiescent delivered.countTick with
      | true =>
        simp only [if_true, List.append_nil]
        refine ⟨followed, fun result final ran => ?_⟩
        cases ran
        exact (congrArg Tally.sent counted.tally).symm.trans tracksNext.sent
      | false =>
        simp only [Bool.false_eq_true, if_false]
        obtain ⟨rest, total⟩ := ih (by omega) counted (soundLater.deliverDue _).countTick tracksNext
        refine ⟨followed_append followed rest fun turn inTick other inRest => ?_, ?_⟩
        · have next := tick_of_mem_turnsFrom inRest
          have now := ticks turn inTick
          omega
        · intro result final ran
          rw [total result final ran, List.flatMap_append, List.append_assoc]

end Lockstep.Network
