import Lockstep.Proofs.Network.Conservation
import Lockstep.Proofs.Network.Unfolding
import Lockstep.Proofs.Node.Halting

/-!
Sends and what becomes of them.

A message takes a buffer when it is posted, and its copies take one for each destination but the
last. Whether all of this fits is told by three numbers: the buffers in use once the node has
consumed its own message, those of its queue that a halt gives back, and the destinations
(`Turn.Sends.plain`). If it does not fit, the copies made so far stay scheduled and the run ends there
(`Occurs.run_failed`): nothing is lost without being told (`sends_accounted`).
-/
namespace Lockstep

/-- How many messages of its queue a node gives back in a turn that ends with this signal. The one it
has consumed is not among them. -/
def Node.givenBack (node : Node) (signal : Signal) : Nat :=
  if signal = .halt then node.pending.tail.length else 0

namespace Station

variable {σ : Type} {table : SymbolTable} {program : Program σ} {full : Bool} {station : Station}
  {shared left : σ} {memory : Memory} {signal : Signal} {requested : Bool}

/-- What the step of a station comes to whose program asks for a send. Without a buffer for the
message it fails before a halt takes effect. -/
structure Sends (table : SymbolTable) (station : Station) (memory : Memory) (signal : Signal)
    (full : Bool) (stepped : Stepped σ) : Prop where
  failed : full = true → stepped.outcome = .failed .poolExhausted
  lasting : full = false → ∀ error, stepped.outcome ≠ .failed error
  outgoing : stepped.outgoing = if full then none else some (memory.outgoing table)
  memory : stepped.station.memory = memory
  inbox : full = false →
    stepped.station.inbox = if signal = .halt then [] else station.inbox.tail
  goesOn : signal ≠ .halt → stepped.station.isTerminated = false

theorem step_sends (running : station.isTerminated = false)
    (played : (program station.place shared).play table ((station.consume table).memory.roll table)
      false = ((left, signal), memory, requested))
    (asks : (requested || signal == .send) = true) (lasting : ∀ fault, signal ≠ .fault fault) :
    Sends table station memory signal full (station.step table program full shared) := by
  have performed : station.perform table program shared =
      ⟨!station.inbox.isEmpty, { station.consume table with memory }, left, signal, requested⟩ := by
    simp only [perform, consume_place, played]
  have stepped : station.step table program full shared = conclude table full
      ⟨!station.inbox.isEmpty, { station.consume table with memory }, left, signal,
        requested⟩ := by
    rw [step, if_neg (by simp [running]), performed]
    cases signal with
    | fault fault => exact absurd rfl (lasting fault)
    | «continue» | send | halt => rfl
  have alive : (station.consume table).isTerminated = false := by
    rw [isTerminated, consume_state]
    exact running
  rw [stepped]
  cases full with
  | true =>
    simp only [conclude, Performance.sends, asks, Bool.and_self, if_true]
    exact ⟨fun _ => rfl, fun absent => absurd absent.symm Bool.false_ne_true, rfl, rfl,
      fun absent => absurd absent.symm Bool.false_ne_true, fun _ => alive⟩
  | false =>
    simp only [conclude, Performance.sends, asks, Bool.and_false, Bool.false_eq_true, if_false,
      if_true]
    refine ⟨fun absent => absurd absent Bool.false_ne_true,
      fun _ => Performance.outcome_ne_failed _, rfl, ?_, fun _ => ?_, fun goes => ?_⟩
    · cases Performance.halts _ <;> rfl
    · simp only [Performance.halts, beq_iff_eq]
      by_cases halts : signal = .halt
      · simp [halts, settle, finish, terminate]
      · simp [halts, settle, finish, consume_inbox]
    · simp only [Performance.halts, beq_iff_eq, goes, if_false]
      exact alive

end Station

namespace Network

variable {ρ σ : Type} {network : Network ρ σ} {start state after : State ρ σ} {scene : Scene ρ σ}
  {turn : Turn ρ σ} {number taken maxTicks : Nat} {stage : Stage} {node : Node} {memory : Memory}
  {signal : Signal}

/-! ### Runs that come to a failure -/

/-- What becomes of a run when the work on a tick has come to an end. -/
def afterTick (network : Network ρ σ) (remaining number : Nat) :
    Stoppable ρ σ (State ρ σ) → Except Breach (RunResult × State ρ σ)
  | .error (.breach breach) => .error breach
  | .error (.failure state node cause) =>
    .ok (state.report (.failed number node cause) number, state)
  | .ok state =>
    if state.allTerminated || network.quiescent state then
      .ok (state.report .completed (number + 1), state)
    else network.advance remaining (number + 1) state

theorem advance_succ (network : Network ρ σ) (remaining number : Nat) (state : State ρ σ) :
    network.advance (remaining + 1) number state =
      network.afterTick remaining number (network.tick number state) := by
  rw [advance]
  cases network.tick number state with
  | error stop => cases stop <;> rfl
  | ok after => rfl

/-- What is left of a tick once so many turns of it have been taken. -/
def restOfTick (network : Network ρ σ) (number taken : Nat) (state : State ρ σ) :
    Stoppable ρ σ (State ρ σ) := do
  let state ← (List.range' taken (network.config.nodeCount - taken)).foldlM (network.turn number)
    state
  let state ← guarded (deliverDue (number + 1) state)
  return state.countTick

theorem restOfTick_zero (count : state.nodes.size = network.config.nodeCount) :
    network.restOfTick number 0 state = network.tick number state := by
  rw [restOfTick, tick, turns, count, Nat.sub_zero, List.range_eq_range']

theorem restOfTick_succ (inside : taken < network.config.nodeCount) :
    network.restOfTick number taken state =
      network.turn number state taken >>= network.restOfTick number (taken + 1) := by
  obtain ⟨left, total⟩ := Nat.exists_eq_add_of_lt inside
  have here : network.config.nodeCount - taken = left + 1 := by omega
  have later : network.config.nodeCount - (taken + 1) = left := by omega
  rw [restOfTick, here, List.range'_succ, List.foldlM_cons]
  cases network.turn number state taken with
  | error stop => rfl
  | ok middle =>
    change _ = network.restOfTick number (taken + 1) middle
    rw [restOfTick, later]
    rfl

/-- From any moment at which no turn has failed, a run goes on with what is left of the tick. -/
theorem Occurs.run_eq (valid : network.table.Valid) (sound : start.Sound network [])
    (occurs : network.Occurs start number stage state) (early : number < maxTicks) :
    match stage with
    | .turns taken => taken ≤ network.config.nodeCount ∧ network.run maxTicks start =
        network.afterTick (maxTicks - (number + 1)) number (network.restOfTick number taken state)
    | .delivered => network.run maxTicks start =
        network.afterTick (maxTicks - (number + 1)) number (.ok state.countTick)
    | .stopped => True := by
  induction occurs with
  | @first state begun =>
    obtain ⟨first, known, depicts⟩ := begin_depicts valid sound
    cases Except.ok.inj (known.symm.trans begun)
    refine ⟨Nat.zero_le _, ?_⟩
    rw [restOfTick_zero depicts.sound.count, ← advance_succ, Nat.sub_add_cancel early, run, begun]
    rfl
  | @turn number taken before after occurs inside ran ih =>
    obtain ⟨scene, depicts⟩ := occurs.depicts valid sound
    rw [depicts.sound.count] at inside
    refine ⟨inside, (ih early).2.trans ?_⟩
    rw [restOfTick_succ inside, ran]
    rfl
  | stop => trivial
  | @deliver number before after occurs delivered ih =>
    obtain ⟨scene, depicts⟩ := occurs.depicts valid sound
    refine (ih early).2.trans ?_
    rw [restOfTick, depicts.sound.count, Nat.sub_self]
    simp only [List.range'_zero, List.foldlM_nil, delivered, guarded_ok, bind, Except.bind, pure,
      Except.pure]
  | @next number state occurs lasting ih =>
    obtain ⟨scene, depicts⟩ := occurs.depicts valid sound
    refine ⟨Nat.zero_le _, (ih (Nat.lt_of_succ_lt early)).trans ?_⟩
    have remaining : maxTicks - (number + 1) = maxTicks - (number + 1 + 1) + 1 := by omega
    rw [restOfTick_zero depicts.countTick.sound.count, ← advance_succ, ← remaining, afterTick,
      if_neg (by rw [lasting]; exact Bool.false_ne_true)]

/-- A turn that fails ends the run it belongs to. -/
theorem Occurs.run_failed (valid : network.table.Valid) (sound : start.Sound network [])
    {failed : Nat} {cause : FailureCause}
    (occurs : network.Occurs start number (.turns taken) state)
    (inside : taken < network.config.nodeCount)
    (ran : network.turn number state taken = .error (.failure after failed cause))
    (early : number < maxTicks) :
    network.run maxTicks start =
      .ok (after.report (.failed number failed cause) number, after) := by
  rw [(occurs.run_eq valid sound early).2, restOfTick_succ inside, ran]
  rfl

/-! ### The turn -/

/-- In this turn the program of a running node asks for a send and does not fault. It leaves this
memory behind and ends with this signal. -/
structure Turn.Sends (network : Network ρ σ) (turn : Turn ρ σ) (node : Node) (memory : Memory)
    (signal : Signal) : Prop where
  found : turn.before.nodes[turn.index]? = some node
  running : node.isTerminated = false
  played : ∃ view shared requested, turn.view network = .ok view ∧
    (network.program turn.index node.place turn.before.shared).run network.table view false =
      .ok ((shared, signal), memory, requested) ∧ (requested || signal == .send) = true
  lasting : ∀ fault, signal ≠ .fault fault

/-- How many buffers are in use once the node of a turn has consumed its message. -/
def Turn.occupied (network : Network ρ σ) (turn : Turn ρ σ) : Except Breach Nat := do
  let node ← turn.before.node turn.index
  let (_, _, pool) ← node.consume network.table turn.before.pool
  return pool.inUse

/-- These messages are what a turn schedules, with the random state their delays leave behind. Every
other message that nobody has consumed is as it was. -/
structure Turn.Schedules (turn : Turn ρ σ) (sent : List Message × ρ) (after : State ρ σ) :
    Prop where
  scheduled : ∀ due, (after.schedule.slotsAt due).map after.pool.letter =
    (turn.before.schedule.slotsAt due).map turn.before.pool.letter ++
      sent.1.filter (·.arrival == due)
  waiting : after.schedule.inFlight = turn.before.schedule.inFlight + sent.1.length
  tally : after.tally = { turn.before.tally with
    sent := turn.before.tally.sent + sent.1.length }
  random : after.random = sent.2
  queues : ∀ index other, index ≠ turn.index → turn.before.nodes[index]? = some other →
    ∃ same, after.nodes[index]? = some same ∧
      same.pending.map after.pool.letter = other.pending.map turn.before.pool.letter

theorem Turn.occupied_eq (valid : network.table.Valid)
    (depicts : Depicts network [] turn.before scene)
    (found : turn.before.nodes[turn.index]? = some node) :
    turn.occupied network = .ok (usedBy (node.portray turn.before.pool) scene) := by
  have owned : turn.before.pool.Holds (node.pending ++ turn.before.others turn.index) :=
    depicts.sound.owned.perm (held_split found)
  obtain ⟨fed, after, taken, -, -, -, -, -, -, inUse⟩ :=
    Node.consume_shows valid (depicts.node_sound found) owned depicts.sound.payloadSize
  have read : turn.before.node turn.index = .ok node := by
    rw [State.node, found]
  simp only [Turn.occupied, read, taken, bind, Except.bind, pure, Except.pure, inUse]
  rw [depicts.inUse, List.length_nil, Nat.zero_add, usedBy, Node.portray, List.length_map]

/-- What a turn schedules on its scene it schedules. -/
theorem Turn.schedules (depicts : Depicts network [] turn.before scene)
    (found : turn.before.nodes[turn.index]? = some node) {sent : List Message × ρ}
    (sends : network.sentIn turn.tick scene turn.index = sent)
    (depictsAfter : Depicts network [] after
      (leftBy (network.plainTurn turn.tick scene turn.index))) :
    turn.Schedules sent after := by
  subst sends
  obtain ⟨stations, transit, random, -, tally⟩ :=
    leftBy_plainTurn network turn.tick (depicts.station found)
  refine ⟨fun due => ?_, ?_, ?_, ?_, fun index other apart listed => ?_⟩
  · rw [depictsAfter.due, depicts.due, transit, List.filter_append]
  · rw [depictsAfter.waiting, depicts.waiting, transit, List.length_append]
  · rw [← depictsAfter.tally, ← depicts.tally, tally]
  · rw [← depictsAfter.random, random]
  · have inside : index < network.config.nodeCount :=
      depicts.sound.count ▸ (Array.getElem?_eq_some_iff.mp listed).1
    obtain ⟨same, still⟩ := depictsAfter.found inside
    have portrait := depictsAfter.station still
    rw [stations, List.getElem?_set_ne (Ne.symm apart), depicts.station listed] at portrait
    exact ⟨same, still, (congrArg Station.inbox (Option.some.inj portrait)).symm⟩

/-- There is a buffer for the message of a station, and one for each of its destinations once those
discarded are given back. -/
def Scene.Affords (network : Network ρ σ) (scene : Scene ρ σ) (station : Station)
    (discarded : Nat) (destinations : List Nat) : Prop :=
  usedBy station scene < network.config.capacity ∧
    destinations.length ≤ network.config.capacity - (usedBy station scene - discarded)

/-- The destinations that get a message. The last buffer that there is goes back with the message
itself if there is not one for each. -/
def Scene.granted (network : Network ρ σ) (scene : Scene ρ σ) (station : Station)
    (discarded : Nat) (destinations : List Nat) : List Nat :=
  if network.config.capacity ≤ usedBy station scene then []
  else served (network.config.capacity - (usedBy station scene - discarded)) destinations

theorem Scene.granted_eq {station : Station} {discarded : Nat} {destinations : List Nat}
    (affords : scene.Affords network station discarded destinations) :
    scene.granted network station discarded destinations = destinations := by
  rw [granted, if_neg (Nat.not_le.mpr affords.1), served, if_pos affords.2]

theorem Scene.granted_of_scarce {station : Station} {discarded : Nat} {destinations : List Nat}
    (bounded : usedBy station scene ≤ network.config.capacity)
    (scarce : ¬ scene.Affords network station discarded destinations) :
    scene.granted network station discarded destinations =
      if usedBy station scene = network.config.capacity then []
      else destinations.take
        (network.config.capacity - (usedBy station scene - discarded) - 1) := by
  by_cases full : usedBy station scene = network.config.capacity
  · rw [granted, if_pos (Nat.le_of_eq full.symm), if_pos full]
  · have free : usedBy station scene < network.config.capacity := Nat.lt_of_le_of_ne bounded full
    rw [granted, if_neg (Nat.not_le.mpr free), if_neg full, served,
      if_neg fun enough => scarce ⟨free, enough⟩]

/-- What the turn of a station comes to whose program asks for a send. -/
structure Scene.Sends (network : Network ρ σ) (tick : Nat) (scene : Scene ρ σ) (index : Nat)
    (station : Station) (payload : Cells) (discarded : Nat) (destinations : List Nat) : Prop where
  fits : discarded ≤ usedBy station scene
  sent : network.sentIn tick scene index = network.address tick index payload
    (scene.granted network station discarded destinations) scene.random
  goes : scene.Affords network station discarded destinations →
    ∃ after, network.plainTurn tick scene index = .ok after
  fails : ¬ scene.Affords network station discarded destinations →
    ∃ after, network.plainTurn tick scene index =
      .error ⟨after, index, .resourceExhausted network.config.capacity⟩

theorem plainTurn_asks (tick : Nat) {index : Nat} {station : Station} {destinations : List Nat}
    (found : scene.stations[index]? = some station)
    (resolved : network.destinations index (memory.outgoing network.table) scene.stations.length =
      destinations)
    (steps : Station.Sends network.table station memory signal
      (decide (network.config.capacity ≤ usedBy station scene))
      (network.plainStep station scene index)) :
    scene.Sends network tick index station (memory.outgoing network.table)
      (if signal = .halt then station.inbox.tail.length else 0) destinations := by
  have queue := inbox_le_live found
  have fits : (if signal = .halt then station.inbox.tail.length else 0) ≤ usedBy station scene := by
    rw [usedBy, List.length_tail]
    split <;> omega
  have turned := plainTurn_eq network tick found
  by_cases full : network.config.capacity ≤ usedBy station scene
  · rw [decide_eq_true full] at steps
    refine ⟨fits, ?_, fun affords => absurd full (Nat.not_le.mpr affords.1), fun _ => ?_⟩
    · simp only [sentIn, found, steps.outgoing, if_true, Scene.granted, if_pos full]
      rfl
    · rw [turned, endTurn, steps.failed rfl]
      exact ⟨_, rfl⟩
  · rw [decide_eq_false full] at steps
    have live : (scene.setStation index (network.plainStep station scene index).station).live =
        usedBy station scene - if signal = .halt then station.inbox.tail.length else 0 := by
      have moved := sum_setStation found (·.inbox.length)
        (network.plainStep station scene index).station
      have left := congrArg List.length (steps.inbox rfl)
      simp only [usedBy, Scene.live, Scene.setStation] at moved queue ⊢
      split at left
      · rename_i halts
        rw [List.length_nil] at left
        rw [if_pos halts, List.length_tail]
        omega
      · rename_i goes
        rw [List.length_tail] at left
        rw [if_neg goes]
        omega
    rw [endTurn_sends network tick index _ (steps.lasting rfl) (steps.outgoing)] at turned
    generalize reached : ({ scene.setStation index
      (network.plainStep station scene index).station with
        shared := (network.plainStep station scene index).shared }.mark
          (usedBy station scene + 1)) = marked at turned
    have count : marked.stations.length = scene.stations.length := by
      rw [← reached]
      exact List.length_set
    have left : network.room marked = network.config.capacity -
        (usedBy station scene - if signal = .halt then station.inbox.tail.length else 0) := by
      rw [room, ← live, ← reached]
      rfl
    refine ⟨fits, ?_, fun affords => ?_, fun scarce => ?_⟩
    · simp only [sentIn, found, steps.outgoing, Bool.false_eq_true, if_false, room, live, resolved,
        Scene.granted, if_neg full]
    · rw [turned]
      exact plainDispatch_ok tick (by rw [count, resolved]) (left ▸ affords.2)
    · have short : ¬ destinations.length ≤ network.room marked :=
        fun enough => scarce ⟨Nat.lt_of_not_le full, left ▸ enough⟩
      rw [turned, plainDispatch, count, resolved, plainSend, if_neg short]
      exact ⟨_, rfl⟩

section Asking

variable (valid : network.table.Valid) (depicts : Depicts network [] turn.before scene)
  (sound : scene.Sound network) (sends : turn.Sends network node memory signal)

include valid depicts sound sends

/-- On the scene, too, the program asks for a send. -/
theorem Turn.Sends.plain :
    Station.Sends network.table (node.portray turn.before.pool) memory signal
      (decide (network.config.capacity ≤ usedBy (node.portray turn.before.pool) scene))
      (network.plainStep (node.portray turn.before.pool) scene turn.index) ∧
    memory.Fits network.table := by
  have rests := sound.rests _ (List.mem_of_getElem? (depicts.station sends.found))
  obtain ⟨view, left, requested, seen, ran, asks⟩ := sends.played
  rw [view_eq valid depicts sends.found] at seen
  cases seen
  rw [Interaction.run_eq valid _ (rests.consume_fits valid).roll, ← depicts.shared] at ran
  have steps : Station.Sends network.table (node.portray turn.before.pool) memory signal
      (decide (network.config.capacity ≤ usedBy (node.portray turn.before.pool) scene))
      (network.plainStep (node.portray turn.before.pool) scene turn.index) :=
    Station.step_sends sends.running (Except.ok.inj ran) asks sends.lasting
  exact ⟨steps, steps.memory ▸ (rests.step valid).fits⟩

variable {destinations : List Nat} (resolved : network.destinations turn.index
  (memory.outgoing network.table) network.config.nodeCount = destinations)

include resolved

/-- What the turn comes to on the scene, in terms of the node. -/
theorem Turn.Sends.told :
    scene.Sends network turn.tick turn.index (node.portray turn.before.pool)
      (memory.outgoing network.table) (node.givenBack signal) destinations := by
  have asks := plainTurn_asks turn.tick (depicts.station sends.found)
    (depicts.length ▸ resolved) (sends.plain valid depicts sound).1
  have queue : (node.portray turn.before.pool).inbox.tail.length = node.pending.tail.length := by
    simp only [Node.portray, List.length_tail, List.length_map]
  rwa [queue] at asks

/-- A turn that can afford it goes through, and has scheduled a message for each destination. Of its
queue the node has consumed one message, and kept the others unless it has halted. -/
theorem Turn.Sends.transmits
    (affords : scene.Affords network (node.portray turn.before.pool) (node.givenBack signal)
      destinations) :
    ∃ after, network.turn turn.tick turn.before turn.index = .ok after ∧
      turn.Schedules (network.address turn.tick turn.index (memory.outgoing network.table)
        destinations turn.before.random) after ∧
      ∃ own, after.nodes[turn.index]? = some own ∧ own.pending.map after.pool.letter =
        if signal = .halt then [] else node.pending.tail.map turn.before.pool.letter := by
  have listed := depicts.station sends.found
  have inside := (List.getElem?_eq_some_iff.mp listed).1
  have told := sends.told valid depicts sound resolved
  obtain ⟨shown, known⟩ := told.goes affords
  obtain ⟨after, ran, depictsAfter⟩ :=
    (turn_refines turn.tick valid depicts (depicts.length ▸ inside)).exists_ok known
  have left : leftBy (network.plainTurn turn.tick scene turn.index) = shown :=
    congrArg leftBy known
  have sent := told.sent
  rw [Scene.granted_eq affords, depicts.random] at sent
  refine ⟨after, ran, Turn.schedules depicts sends.found sent (left ▸ depictsAfter), ?_⟩
  obtain ⟨own, found⟩ := depictsAfter.found (depicts.length ▸ inside)
  have steps := (sends.plain valid depicts sound).1
  rw [decide_eq_false (Nat.not_le.mpr affords.1)] at steps
  have kept := steps.inbox rfl
  rw [← portrait_left listed (left ▸ depictsAfter) found] at kept
  refine ⟨own, found, kept.trans ?_⟩
  rw [Node.portray, List.map_tail]

/-- A turn that cannot afford it fails, with the messages scheduled that it could. -/
theorem Turn.Sends.runsOut
    (scarce : ¬ scene.Affords network (node.portray turn.before.pool) (node.givenBack signal)
      destinations) :
    ∃ after, network.turn turn.tick turn.before turn.index =
        .error (.failure after turn.index (.resourceExhausted network.config.capacity)) ∧
      turn.Schedules (network.address turn.tick turn.index (memory.outgoing network.table)
        (scene.granted network (node.portray turn.before.pool) (node.givenBack signal)
          destinations) turn.before.random) after := by
  have inside := (List.getElem?_eq_some_iff.mp (depicts.station sends.found)).1
  have told := sends.told valid depicts sound resolved
  obtain ⟨left, failed⟩ := told.fails scarce
  obtain ⟨after, ran, depictsAfter⟩ :=
    (turn_refines turn.tick valid depicts (depicts.length ▸ inside)).exists_failure failed
  refine ⟨after, ran, Turn.schedules depicts sends.found (depicts.random ▸ told.sent) ?_⟩
  rw [failed]
  exact depictsAfter

end Asking

/-- No send is lost without being told. With a buffer for the message and one for each destination,
counting those that a halt gives back, it goes to all of them in the order of the router, each copy
with a delay of its own. Otherwise the run fails there, and what was scheduled are the copies that
there was a buffer for. -/
theorem sends_accounted {table : SymbolTable} {config : NetworkConfig} {program : Nat → Program σ}
    {router : Router} {source : Source ρ}
    (built : Network.build table config program router source = .ok network)
    (resting : network.Resting start)
    (occurs : network.Occurs start turn.tick (.turns turn.index) turn.before)
    (sends : turn.Sends network node memory signal) :
    ∃ used payload, turn.occupied network = .ok used ∧ memory.payload network.table = .ok payload ∧
      let discarded := node.givenBack signal
      let destinations := (router turn.index payload config.nodeCount).filter (· < config.nodeCount)
      let fits := used + 1 ≤ config.capacity ∧
        used - discarded + destinations.length ≤ config.capacity
      discarded ≤ used ∧
      ((∃ after, network.turn turn.tick turn.before turn.index = .ok after) ↔ fits) ∧
      (∀ after, network.turn turn.tick turn.before turn.index = .ok after →
        turn.Schedules (network.address turn.tick turn.index payload destinations
          turn.before.random) after ∧
        ∃ own, after.nodes[turn.index]? = some own ∧ own.pending.map after.pool.letter =
          if signal = .halt then [] else node.pending.tail.map turn.before.pool.letter) ∧
      (¬ fits → ∃ after,
        network.turn turn.tick turn.before turn.index =
          .error (.failure after turn.index (.resourceExhausted config.capacity)) ∧
        turn.Schedules (network.address turn.tick turn.index payload
          (if used = config.capacity then []
            else destinations.take (config.capacity - (used - discarded) - 1))
          turn.before.random) after ∧
        ∀ maxTicks, turn.tick < maxTicks → network.run maxTicks start =
          .ok (after.report (.failed turn.tick turn.index (.resourceExhausted config.capacity))
            turn.tick, after)) := by
  obtain ⟨-, valid, same⟩ := build_eq_ok.mp built
  obtain rfl : network.config = config := congrArg Network.config same
  obtain rfl : network.router = router := congrArg Network.router same
  replace valid : network.table.Valid := (congrArg Network.table same) ▸ valid
  have soundStart := resting.sound valid
  obtain ⟨past, unfolds⟩ := occurs.unfolds
  obtain ⟨scene, taken, depicts, sound, -, -⟩ :=
    (placed_invariant network start).shows valid soundStart unfolds
  have inside : turn.index < network.config.nodeCount :=
    depicts.sound.count ▸ (Array.getElem?_eq_some_iff.mp sends.found).1
  have bounded : usedBy (node.portray turn.before.pool) scene ≤ network.config.capacity := by
    have within := depicts.sound.partitioned.bounded
    rw [depicts.inUse, List.length_nil, Nat.zero_add] at within
    exact Nat.le_trans (Nat.sub_le _ _) within
  refine ⟨_, _, Turn.occupied_eq valid depicts sends.found,
    Memory.payload_eq valid (sends.plain valid depicts sound).2, ?_⟩
  intro discarded destinations fits
  have fitting : discarded ≤ _ := (sends.told valid depicts sound rfl).fits
  have affords : scene.Affords network (node.portray turn.before.pool) discarded
      destinations ↔ fits := by
    simp only [Scene.Affords, fits]
    omega
  have transmits := fun room => sends.transmits valid depicts sound rfl (affords.mpr room)
  have runsOut := fun scarce : ¬ fits =>
    sends.runsOut valid depicts sound rfl fun room => scarce (affords.mp room)
  have passed : ∀ after, network.turn turn.tick turn.before turn.index = .ok after → fits := by
    intro after ran
    by_cases room : fits
    · exact room
    · obtain ⟨_, failed, -⟩ := runsOut room
      rw [ran] at failed
      cases failed
  refine ⟨fitting, ⟨?_, ?_⟩, fun after ran => ?_, fun scarce => ?_⟩
  · rintro ⟨after, ran⟩
    exact passed after ran
  · intro room
    obtain ⟨after, ran, -⟩ := transmits room
    exact ⟨after, ran⟩
  · obtain ⟨same, known, told⟩ := transmits (passed after ran)
    cases Except.ok.inj (known.symm.trans ran)
    exact told
  · obtain ⟨after, failed, schedules⟩ := runsOut scarce
    refine ⟨after, failed, ?_, fun maxTicks early =>
      occurs.run_failed valid soundStart inside failed early⟩
    have granted : scene.granted network (node.portray turn.before.pool) (node.givenBack signal)
        (network.destinations turn.index _ network.config.nodeCount) = _ :=
      Scene.granted_of_scarce bounded fun room => scarce (affords.mp room)
    rwa [granted] at schedules

/-- The first of four nodes halts in the second tick, which gives back two messages, and asks for a
send to six destinations, each of the others twice. There are buffers for three of the copies. -/
theorem sends_accounted_halting :
    ∃ (network : Network Nat Unit) (state after : State Nat Unit) (node : Node) (memory : Memory),
      Network.build .standard { nodeCount := 4, capacity := 16 }
          (fun _ => .ofView fun place => .requestSend fun _ =>
            .read SymbolTable.standard.incoming fun flag =>
              .done (if place.index = 0 ∧ flag ≠ 0 then .halt else .continue))
          (fun sender _ count =>
            if sender = 0 then [1, 1, 9, 2, 2, 3, 3] else (List.range count).filter (· ≠ sender))
          (Source.cycle [1]) = .ok network ∧
        network.Occurs (network.initial 0 ()) 1 (.turns 0) state ∧ state.tally.sent = 15 ∧
        Turn.Sends network ⟨1, 0, state⟩ node memory .halt ∧
        Turn.occupied network ⟨1, 0, state⟩ = .ok 14 ∧ node.givenBack .halt = 2 ∧
        network.turn 1 state 0 = .error (.failure after 0 (.resourceExhausted 16)) ∧
        after.tally.sent = 18 ∧
        network.run 4 (network.initial 0 ()) =
          .ok (after.report (.failed 1 0 (.resourceExhausted 16)) 1, after) := by
  let program : Program Unit := .ofView fun place => .requestSend fun _ =>
    .read SymbolTable.standard.incoming fun flag =>
      .done (if place.index = 0 ∧ flag ≠ 0 then .halt else .continue)
  let router : Router := fun sender _ count =>
    if sender = 0 then [1, 1, 9, 2, 2, 3, 3] else (List.range count).filter (· ≠ sender)
  let network : Network Nat Unit :=
    ⟨.standard, { nodeCount := 4, capacity := 16 }, fun _ => program, router, Source.cycle [1]⟩
  have built : Network.build network.table network.config network.program network.router
      network.source = .ok network := rfl
  have evaluated : (network.begin (network.initial 0 ())).toOption.bind (fun first =>
      (network.tick 0 first).toOption.bind fun state => state.nodes[0]?.bind fun node =>
        (Turn.view network ⟨1, 0, state⟩).toOption.bind fun view =>
          ((program node.place state.shared).run network.table view false).toOption.bind fun played =>
            (Turn.occupied network ⟨1, 0, state⟩).toOption.map fun used =>
              ([state.allTerminated || network.quiescent state, node.isTerminated, played.2.2],
                [node.givenBack .halt, used, state.tally.sent], played.1.2)) =
      some ([false, false, true], [2, 14, 15], .halt) := by
    decide +kernel
  simp only [Option.bind_eq_some_iff, Option.map_eq_some_iff, toOption_eq_some_iff, Prod.mk.injEq,
    List.cons.injEq, and_true] at evaluated
  obtain ⟨first, begun, state, ticked, node, found, view, seen, ⟨⟨left, signal⟩, memory, requested⟩,
    played, used, occupied, ⟨lasting, running, asks⟩, ⟨given, rfl, sent⟩, rfl⟩ := evaluated
  have valid : network.table.Valid := (build_eq_ok.mp built).2.1
  let turn : Turn Nat Unit := ⟨1, 0, state⟩
  have occurs : network.Occurs (network.initial 0 ()) turn.tick (.turns turn.index) turn.before :=
    ((Unfolds.first begun).tick valid (initial_sound network 0 ()) ticked lasting).occurs
  have sends : turn.Sends network node memory .halt :=
    ⟨found, running, ⟨view, left, requested, seen, played, congrArg (· || _) asks⟩, nofun⟩
  obtain ⟨_, payload, known, -, -, -, -, fails⟩ :=
    sends_accounted built (.initial 0 ()) occurs sends
  cases Except.ok.inj (known.symm.trans occupied)
  rw [given] at fails
  have scarce : ¬ (14 + 1 ≤ 16 ∧
      14 - 2 + ((router 0 payload 4).filter (· < 4)).length ≤ 16) := by
    change ¬ (14 + 1 ≤ 16 ∧ 14 - 2 + 6 ≤ 16)
    decide
  obtain ⟨after, failed, schedules, ran⟩ := fails scarce
  refine ⟨network, state, after, node, memory, built, occurs, sent, sends, occupied, given, failed,
    ?_, ran 4 (by change 1 < 4; decide)⟩
  rw [schedules.tally, length_address]
  exact congrArg (· + 3) sent

end Network

end Lockstep
