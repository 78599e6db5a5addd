import Lockstep.Network.Run
import Lockstep.Proofs.Program.Play
import Mathlib.Algebra.GroupWithZero.Nat

/-!
The network without its machinery.

Here a queue holds messages instead of slots, the schedule is the list of messages on their way in
the order they were sent, and the buffers in use are the messages that nobody has consumed yet.
Nothing can break a contract. `Proofs/Network/Refinement` shows that a run of a network is a run of
this one; what a network does is then proved here.
-/
namespace Lockstep

/-- A node whose queue holds the messages themselves. -/
structure Station where
  place : Place
  memory : Memory
  /-- Messages delivered and not yet consumed, the oldest first. -/
  inbox : List Message
  state : Lifecycle
  idle : Nat
  sent : Nat
  received : Nat
  dropped : Nat
  last : Option StepOutcome
  deriving DecidableEq

/-- What a station has done once its program has ended. -/
structure Performance (σ : Type) where
  /-- A message was consumed. -/
  consumed : Bool
  station : Station
  shared : σ
  signal : Signal
  /-- The program asked for a send by itself. -/
  requested : Bool

namespace Performance

variable {σ : Type}

/-- A message is to be sent. -/
def sends (performance : Performance σ) : Bool :=
  performance.requested || performance.signal == .send

/-- The station takes no further part. -/
def halts (performance : Performance σ) : Bool :=
  performance.signal == .halt

/-- What came of a step that did not fail. -/
def outcome (table : SymbolTable) (performance : Performance σ) : StepOutcome :=
  if performance.consumed || performance.station.memory.pending table || performance.sends then
    .changed
  else .unchanged

end Performance

namespace Station

/-- The station has halted. -/
def isTerminated (station : Station) : Bool :=
  station.state == .terminated

/-- A step's outcome is noted. -/
def finish (station : Station) (outcome : StepOutcome) : Station :=
  { station with last := some outcome }

/-- Ends a step that did not fail: an idle one is counted. -/
def settle (station : Station) (outcome : StepOutcome) : Station :=
  { station with
    idle := if outcome = StepOutcome.unchanged then station.idle + 1 else station.idle }.finish
      outcome

/-- The oldest message of the queue goes to memory. -/
def consume (table : SymbolTable) (station : Station) : Station :=
  match station.inbox with
  | [] => station
  | message :: inbox =>
    { station with
      memory := station.memory.accept table message.payload
      inbox
      received := station.received + 1 }

/-- A step up to the end of the program. -/
def perform {σ : Type} (table : SymbolTable) (program : Program σ) (station : Station)
    (shared : σ) : Performance σ :=
  let fed := station.consume table
  let played := (program station.place shared).play table (fed.memory.roll table) false
  { consumed := !station.inbox.isEmpty
    station := { fed with memory := played.2.1 }
    shared := played.1.1
    signal := played.1.2
    requested := played.2.2 }

/-- The station takes no further part. Messages in its queue are dropped. -/
def terminate (station : Station) : Station :=
  { station with
    state := .terminated, inbox := [], dropped := station.dropped + station.inbox.length }

/-- What a step leaves behind. -/
structure Stepped (σ : Type) where
  outcome : StepOutcome
  station : Station
  /-- The words to send. -/
  outgoing : Option Cells
  shared : σ

/-- The end of a step whose program did not fault. `full` tells that there is no buffer left. -/
def conclude {σ : Type} (table : SymbolTable) (full : Bool) (performance : Performance σ) :
    Stepped σ :=
  let station := performance.station
  if performance.sends && full then
    ⟨.failed .poolExhausted, station.finish (.failed .poolExhausted), none, performance.shared⟩
  else
    let posted :=
      { station with sent := if performance.sends then station.sent + 1 else station.sent }
    let ended := if performance.halts then posted.terminate else posted
    ⟨performance.outcome table, ended.settle (performance.outcome table),
      if performance.sends then some (station.memory.outgoing table) else none,
      performance.shared⟩

/-- The station's part in a tick. -/
def step {σ : Type} (table : SymbolTable) (program : Program σ) (full : Bool) (station : Station)
    (shared : σ) : Stepped σ :=
  if station.isTerminated then ⟨.unchanged, station.settle .unchanged, none, shared⟩
  else
    let performance := station.perform table program shared
    match performance.signal with
    | .fault fault =>
      ⟨.failed (.fault fault), performance.station.finish (.failed (.fault fault)), none,
        performance.shared⟩
    | _ => conclude table full performance

end Station

namespace Network

variable {ρ σ : Type}

/-- The state of a network without its machinery. -/
structure Scene (ρ σ : Type) where
  stations : List Station
  /-- The messages on their way, in the order they were sent. -/
  transit : List Message
  peak : Nat
  random : ρ
  shared : σ
  tally : Tally

/-- A turn that failed, with what it left behind. -/
structure Failure (ρ σ : Type) where
  scene : Scene ρ σ
  node : Nat
  cause : FailureCause

namespace Scene

/-- How many messages nobody has consumed yet. -/
def live (scene : Scene ρ σ) : Nat :=
  scene.transit.length + (scene.stations.map (·.inbox.length)).sum

/-- The scene with another station at a number. -/
def setStation (scene : Scene ρ σ) (index : Nat) (station : Station) : Scene ρ σ :=
  { scene with stations := scene.stations.set index station }

/-- Notes that as many buffers were in use at once. -/
def mark (scene : Scene ρ σ) (used : Nat) : Scene ρ σ :=
  { scene with peak := max scene.peak used }

/-- Hands a message to its destination, or drops it if that station has terminated. -/
def deliverOne (scene : Scene ρ σ) (message : Message) : Scene ρ σ :=
  match scene.stations[message.destination]? with
  | none => scene
  | some station =>
    if station.isTerminated then
      { scene with tally := { scene.tally with dropped := scene.tally.dropped + 1 } }
    else
      { scene.setStation message.destination
          { station with inbox := station.inbox ++ [message] } with
        tally := { scene.tally with delivered := scene.tally.delivered + 1 } }

/-- Delivers every message due in a tick. -/
def deliverDue (tick : Nat) (scene : Scene ρ σ) : Scene ρ σ :=
  (scene.transit.filter (·.arrival == tick)).foldl deliverOne
    { scene with transit := scene.transit.filter (·.arrival != tick) }

/-- No station changed in its latest step. -/
def isIdle (scene : Scene ρ σ) : Bool :=
  scene.stations.all fun station => station.last == some .unchanged

/-- Counts a finished tick as idle or not. -/
def countTick (scene : Scene ρ σ) : Scene ρ σ :=
  if scene.isIdle then
    { scene with
      tally := { scene.tally with
        idleTicks := scene.tally.idleTicks + 1, idleStreak := scene.tally.idleStreak + 1 } }
  else { scene with tally := { scene.tally with idleStreak := 0 } }

/-- Every station has halted. -/
def allTerminated (scene : Scene ρ σ) : Bool :=
  scene.stations.all Station.isTerminated

/-- The report of a station. -/
def reportStation (station : Station) : NodeReport where
  index := station.place.index
  finalState := station.memory.current
  idleStepCount := station.idle
  messagesSent := station.sent
  messagesReceived := station.received
  halted := station.isTerminated

/-- The report of a run that has come to this scene. -/
def report (scene : Scene ρ σ) (outcome : RunOutcome) (ticksRun : Nat) : RunResult where
  outcome
  ticksRun
  nodes := scene.stations.map reportStation
  stats :=
    { messagesSent := scene.tally.sent
      messagesDelivered := scene.tally.delivered
      messagesDropped := scene.tally.dropped + (scene.stations.map (·.dropped)).sum
      peakInFlight := scene.peak
      idleTicks := scene.tally.idleTicks
      consecutiveIdleTicks := scene.tally.idleStreak }

end Scene

/-- The messages that carry some words to destinations, one each in order, every one with a delay
of its own. -/
def address (network : Network ρ σ) (tick sender : Nat) (payload : Cells) :
    List Nat → ρ → List Message × ρ
  | [], random => ([], random)
  | destination :: rest, random =>
    let drawn := network.source.draw random network.config.minDelay network.config.maxDelay
    let addressed := address network tick sender payload rest drawn.2
    (⟨payload, sender, destination, min (tick + drawn.1) lastTick⟩ :: addressed.1, addressed.2)

/-- Sends some words to destinations. -/
def post (network : Network ρ σ) (tick sender : Nat) (payload : Cells) (destinations : List Nat)
    (scene : Scene ρ σ) : Scene ρ σ :=
  let addressed := network.address tick sender payload destinations scene.random
  { scene with
    transit := scene.transit ++ addressed.1
    random := addressed.2
    tally := { scene.tally with sent := scene.tally.sent + destinations.length } }

/-- Where the router sends some words, as far as the network has such nodes. -/
def destinations (network : Network ρ σ) (sender : Nat) (payload : Cells) (count : Nat) :
    List Nat :=
  (network.router sender payload count).filter (· < count)

/-- How many messages the pool has room for. -/
def room (network : Network ρ σ) (scene : Scene ρ σ) : Nat :=
  network.config.capacity - scene.live

/-- Sends some words to destinations. If there is no room for all the messages, the last one that
there is room for is not sent either: its buffer is the one the words came in. -/
def plainSend (network : Network ρ σ) (tick sender : Nat) (payload : Cells)
    (destinations : List Nat) (scene : Scene ρ σ) : Except (Failure ρ σ) (Scene ρ σ) :=
  if destinations.length ≤ network.room scene then
    .ok ((network.post tick sender payload destinations scene).mark
      (scene.live + destinations.length))
  else
    .error ⟨(network.post tick sender payload (destinations.take (network.room scene - 1))
      scene).mark network.config.capacity, sender, .resourceExhausted network.config.capacity⟩

/-- Sends some words where the router says. -/
def plainDispatch (network : Network ρ σ) (tick sender : Nat) (payload : Cells)
    (scene : Scene ρ σ) : Except (Failure ρ σ) (Scene ρ σ) :=
  network.plainSend tick sender payload
    (network.destinations sender payload scene.stations.length) scene

/-- The cause that a failed step is reported with. -/
def plainCause (network : Network ρ σ) : StepError → FailureCause
  | .fault fault => .programFault fault
  | .poolExhausted => .resourceExhausted network.config.capacity

/-- The buffers in use once a station has consumed its message. -/
def usedBy (station : Station) (scene : Scene ρ σ) : Nat :=
  scene.live - min 1 station.inbox.length

/-- What the step of a station leaves behind, before anything is sent. -/
def plainStep (network : Network ρ σ) (station : Station) (scene : Scene ρ σ) (index : Nat) :
    Station.Stepped σ :=
  station.step network.table (network.program index)
    (decide (network.config.capacity ≤ usedBy station scene)) scene.shared

/-- The turn of one station in a tick. -/
def plainTurn (network : Network ρ σ) (tick : Nat) (scene : Scene ρ σ) (index : Nat) :
    Except (Failure ρ σ) (Scene ρ σ) :=
  match scene.stations[index]? with
  | none => .ok scene
  | some station =>
    let stepped := network.plainStep station scene index
    let after := { scene.setStation index stepped.station with shared := stepped.shared }
    match stepped.outcome with
    | .failed error => .error ⟨after, index, network.plainCause error⟩
    | _ =>
      match stepped.outgoing with
      | none => .ok after
      | some payload =>
        network.plainDispatch tick index payload (after.mark (usedBy station scene + 1))

/-- The turns of all stations, in order. -/
def plainTurns (network : Network ρ σ) (tick : Nat) (scene : Scene ρ σ) :
    Except (Failure ρ σ) (Scene ρ σ) :=
  (List.range scene.stations.length).foldlM (network.plainTurn tick) scene

/-- One tick. -/
def plainTick (network : Network ρ σ) (number : Nat) (scene : Scene ρ σ) :
    Except (Failure ρ σ) (Scene ρ σ) :=
  (network.plainTurns number scene).map fun scene => (scene.deliverDue (number + 1)).countTick

/-- The network has been idle for long enough, and no message is left. -/
def plainQuiescent (network : Network ρ σ) (scene : Scene ρ σ) : Bool :=
  match network.config.quiescence with
  | none => false
  | some window => decide (window ≤ scene.tally.idleStreak) && scene.live == 0

/-- Runs at most `remaining` more ticks, the first of which is `number`. -/
def plainAdvance (network : Network ρ σ) :
    (remaining number : Nat) → Scene ρ σ → RunResult × Scene ρ σ
  | 0, number, scene => (scene.report .completed number, scene)
  | remaining + 1, number, scene =>
    match network.plainTick number scene with
    | .error failure =>
      (failure.scene.report (.failed number failure.node failure.cause) number, failure.scene)
    | .ok scene =>
      if scene.allTerminated || network.plainQuiescent scene then
        (scene.report .completed (number + 1), scene)
      else network.plainAdvance remaining (number + 1) scene

/-- A run reports the scene it ends in. -/
theorem plainAdvance_report (network : Network ρ σ) (remaining number : Nat) (scene : Scene ρ σ) :
    ∃ outcome ticksRun, (network.plainAdvance remaining number scene).1 =
      (network.plainAdvance remaining number scene).2.report outcome ticksRun := by
  induction remaining generalizing number scene with
  | zero => exact ⟨.completed, number, rfl⟩
  | succ remaining ih =>
    rw [plainAdvance]
    cases network.plainTick number scene with
    | error failure => exact ⟨.failed number failure.node failure.cause, number, rfl⟩
    | ok after =>
      dsimp only
      split
      · exact ⟨.completed, number + 1, rfl⟩
      · exact ih (number + 1) after

/-- A station at the start of a run. -/
def freshStation (network : Network ρ σ) (index : Nat) : Station where
  place := ⟨index, network.config.nodeCount⟩
  memory := .seeded network.table index network.config.nodeCount
  inbox := []
  state := .ready
  idle := 0
  sent := 0
  received := 0
  dropped := 0
  last := none

/-- The scene at the start of a run. -/
def opening (network : Network ρ σ) (random : ρ) (shared : σ) : Scene ρ σ where
  stations := (List.range network.config.nodeCount).map network.freshStation
  transit := []
  peak := 0
  random
  shared
  tally := {}

/-- A run of at most `maxTicks` ticks, from the start. -/
def plainRun (network : Network ρ σ) (maxTicks : Nat) (random : ρ) (shared : σ) :
    RunResult × Scene ρ σ :=
  network.plainAdvance maxTicks 0 (network.opening random shared)

end Network

end Lockstep
