import Lockstep.Proofs.Network.Conservation
import Lockstep.Proofs.Network.Unfolding

/-!
The states a run passes through, those inside its turns and deliveries included.

A turn consumes a message, comes to the end of its step and then schedules its copies one by one; a
delivery takes out what is due and then hands it over one by one. At each of these instants a number
of messages is undelivered, and it is greatest between the turns (`Passes.undelivered_le`).
-/
namespace Lockstep

theorem Schedule.inFlight_drain {waiting left : Schedule} {tick : Nat} {due : List Nat}
    (drained : waiting.drain tick = .ok (due, left)) :
    left.inFlight + due.length = waiting.inFlight := by
  unfold drain at drained
  split at drained
  · cases drained
    rfl
  · obtain ⟨inFlight, counted, drained⟩ := bind_eq_ok drained
    cases drained
    unfold Breach.checkedSub at counted
    split at counted <;> cases counted
    rename_i enough
    exact Nat.sub_add_cancel enough

theorem Node.pending_consume_le {table : SymbolTable} {node fed : Node} {pool after : Pool}
    {outcome : StepOutcome} (consumed : node.consume table pool = .ok (outcome, fed, after)) :
    fed.pending.length ≤ node.pending.length := by
  unfold consume at consumed
  split at consumed
  · cases consumed
    exact Nat.le_refl _
  · rename_i slot pending queue
    obtain ⟨message, -, consumed⟩ := bind_eq_ok consumed
    obtain ⟨memory, -, consumed⟩ := bind_eq_ok consumed
    obtain ⟨released, -, consumed⟩ := bind_eq_ok consumed
    cases consumed
    rw [queue]
    exact Nat.le_succ _

namespace Network

variable {ρ σ : Type} {network : Network ρ σ} {state after middle : State ρ σ} {scene : Scene ρ σ}
  {turn : Turn ρ σ} {turns : List (Turn ρ σ)} {outgoing destinations left slots : List Nat}
  {tick slot index bound : Nat} {node changed : Node}

/-- How many messages are on their way or in a queue. -/
def State.undelivered (state : State ρ σ) : Nat :=
  state.schedule.inFlight + (state.nodes.toList.map (·.pending.length)).sum

theorem Depicts.undelivered (depicts : Depicts network outgoing state scene) :
    state.undelivered = scene.live := by
  have queues : scene.stations.map (·.inbox.length) =
      state.nodes.toList.map (·.pending.length) := by
    rw [depicts.stations, List.map_map]
    simp only [Function.comp_def, Node.portray, List.length_map]
  rw [State.undelivered, depicts.waiting, ← queues, Scene.live]

/-- Another node at a number changes the messages left by those in its queue. -/
theorem undelivered_setNode (found : state.nodes[index]? = some node) (changed : Node)
    (pool : Pool) (shared : σ) :
    State.undelivered { state with
        nodes := state.nodes.setIfInBounds index changed, pool, shared } + node.pending.length =
      state.undelivered + changed.pending.length := by
  rw [← Array.getElem?_toList] at found
  have moved := sum_map_set found (·.pending.length) changed
  simp only [State.undelivered, Array.toList_setIfInBounds] at moved ⊢
  omega

/-! ### Scheduling and handing over -/

/-- Some of these destinations have been served, one after another, and the others are left. The last
gets no copy but the buffer itself, so it is always left. -/
inductive Copies (network : Network ρ σ) (tick slot : Nat) :
    List Nat → State ρ σ → List Nat → State ρ σ → Prop where
  | none (destinations : List Nat) (state : State ρ σ) :
      Copies network tick slot destinations state destinations state
  | copy {destination next copy : Nat} {rest left : List Nat} {state middle after : State ρ σ}
      {pool : Pool} : state.pool.duplicate slot = .ok (some (copy, pool)) →
      network.scheduleOne tick copy destination { state with pool } = .ok middle →
      Copies network tick slot (next :: rest) middle left after →
      Copies network tick slot (destination :: next :: rest) state left after

theorem undelivered_scheduleOne {destination : Nat}
    (scheduled : network.scheduleOne tick slot destination state = .ok after) :
    after.undelivered = state.undelivered + 1 := by
  obtain ⟨message, -, scheduled⟩ := bind_eq_ok scheduled
  obtain ⟨pool, -, scheduled⟩ := bind_eq_ok scheduled
  cases scheduled
  exact Nat.add_right_comm ..

theorem Copies.undelivered (copies : network.Copies tick slot destinations state left after) :
    after.undelivered + left.length = state.undelivered + destinations.length := by
  induction copies with
  | none => rfl
  | copy _ scheduled _ ih =>
    rw [ih, undelivered_scheduleOne scheduled, Nat.add_right_comm]
    rfl

theorem undelivered_deliverOne_le (delivered : deliverOne state slot = .ok after) :
    after.undelivered ≤ state.undelivered + 1 := by
  obtain ⟨message, -, delivered⟩ := bind_eq_ok delivered
  obtain ⟨addressee, listed, delivered⟩ := bind_eq_ok delivered
  have found : state.nodes[message.destination]? = some addressee := by
    unfold State.node at listed
    split at listed <;> cases listed
    assumption
  split at delivered
  · obtain ⟨pool, -, delivered⟩ := bind_eq_ok delivered
    cases delivered
    exact Nat.le_succ _
  · cases delivered
    have queued := undelivered_setNode found (addressee.enqueue slot) state.pool state.shared
    simp only [Node.enqueue, List.length_append, List.length_singleton] at queued
    apply Nat.le_of_add_le_add_right (b := addressee.pending.length)
    exact Nat.le_of_eq (queued.trans (by omega))

theorem undelivered_deliverAll_le (delivered : slots.foldlM deliverOne state = .ok after) :
    after.undelivered ≤ state.undelivered + slots.length := by
  induction slots generalizing state with
  | nil =>
    cases delivered
    exact Nat.le_refl _
  | cons slot rest ih =>
    obtain ⟨middle, first, later⟩ := bind_eq_ok delivered
    have one := undelivered_deliverOne_le first
    have others := ih later
    rw [List.length_cons]
    omega

/-! ### Instants -/

/-- The state at the end of a turn's step, with the message to send taken out. -/
def Turn.settled (turn : Turn ρ σ) (stepped : Node.Stepped σ) : State ρ σ :=
  { turn.before with
    nodes := turn.before.nodes.setIfInBounds turn.index stepped.node.takeOutbox.2
    pool := stepped.pool, shared := stepped.shared }

/-- The step of a turn leaves a message in the outbox, for these nodes of the network. -/
structure Turn.Posts (network : Network ρ σ) (turn : Turn ρ σ) (stepped : Node.Stepped σ)
    (slot : Nat) (destinations : List Nat) : Prop where
  ran : turn.stepped network = .ok stepped
  outbox : stepped.node.outbox = some slot
  resolved : ∃ message, stepped.pool.message slot = .ok message ∧
    network.destinations turn.index message.payload turn.before.nodes.size = destinations

/-- The states that these turns and the deliveries after them pass through. -/
inductive Passes (network : Network ρ σ) (turns : List (Turn ρ σ)) : State ρ σ → Prop where
  | found {turn : Turn ρ σ} : turn ∈ turns → Passes network turns turn.before
  /-- The node has consumed a message. -/
  | fed {turn : Turn ρ σ} {node fed : Node} {outcome : StepOutcome} {pool : Pool} : turn ∈ turns →
      turn.before.nodes[turn.index]? = some node →
      node.consume network.table turn.before.pool = .ok (outcome, fed, pool) →
      Passes network turns { turn.before with
        nodes := turn.before.nodes.setIfInBounds turn.index fed, pool }
  | settled {turn : Turn ρ σ} {stepped : Node.Stepped σ} : turn ∈ turns →
      turn.stepped network = .ok stepped → Passes network turns (turn.settled stepped)
  /-- Some of the copies of its message are scheduled. -/
  | copied {turn : Turn ρ σ} {stepped : Node.Stepped σ} {slot : Nat}
      {destinations left : List Nat} {state : State ρ σ} : turn ∈ turns →
      turn.Posts network stepped slot destinations →
      network.Copies turn.tick slot destinations (turn.settled stepped) left state →
      Passes network turns state
  | left {turn : Turn ρ σ} {after : State ρ σ} : turn ∈ turns →
      network.turn turn.tick turn.before turn.index = .ok after → Passes network turns after
  /-- All turns of the tick are over, and the first of the messages that are due are handed over. -/
  | handed {turn : Turn ρ σ} {after state : State ρ σ} {schedule : Schedule}
      {first rest : List Nat} : turn ∈ turns → network.turn turn.tick turn.before turn.index = .ok after →
      turn.index + 1 = after.nodes.size →
      after.schedule.drain (turn.tick + 1) = .ok (first ++ rest, schedule) →
      first.foldlM deliverOne { after with schedule } = .ok state → Passes network turns state

theorem Passes.mono {more : List (Turn ρ σ)} (passes : network.Passes turns state)
    (listed : turns ⊆ more) : network.Passes more state := by
  cases passes with
  | found member => exact .found (listed member)
  | fed member found consumed => exact .fed (listed member) found consumed
  | settled member ran => exact .settled (listed member) ran
  | copied member posts copies => exact .copied (listed member) posts copies
  | left member ran => exact .left (listed member) ran
  | handed member ran last drained delivered =>
    exact .handed (listed member) ran last drained delivered

/-- No more messages than this are undelivered before and after a turn, at the end of its step, and
with those that it sends. -/
structure Turn.Within (network : Network ρ σ) (turn : Turn ρ σ) (bound : Nat) : Prop where
  before : turn.before.undelivered ≤ bound
  settled : ∀ stepped, turn.stepped network = .ok stepped →
    (turn.settled stepped).undelivered ≤ bound
  sent : ∀ stepped slot destinations, turn.Posts network stepped slot destinations →
    (turn.settled stepped).undelivered + destinations.length ≤ bound
  left : ∀ after, network.turn turn.tick turn.before turn.index = .ok after →
    after.undelivered ≤ bound

theorem Turn.Within.mono {more : Nat} (within : turn.Within network bound) (le : bound ≤ more) :
    turn.Within network more where
  before := Nat.le_trans within.before le
  settled stepped ran := Nat.le_trans (within.settled stepped ran) le
  sent stepped slot destinations posts :=
    Nat.le_trans (within.sent stepped slot destinations posts) le
  left after ran := Nat.le_trans (within.left after ran) le

/-- At no instant of some turns are there more messages than between them. -/
theorem Passes.undelivered_le (passes : network.Passes turns state)
    (within : ∀ turn ∈ turns, turn.Within network bound) : state.undelivered ≤ bound := by
  cases passes with
  | found member => exact (within _ member).before
  | @fed turn node fed outcome pool member found consumed =>
    have fewer := Node.pending_consume_le consumed
    have moved := undelivered_setNode found fed pool turn.before.shared
    have before := (within _ member).before
    refine Nat.le_trans ?_ before
    apply Nat.le_of_add_le_add_right (b := node.pending.length)
    exact Nat.le_trans (Nat.le_of_eq moved) (Nat.add_le_add_left fewer _)
  | settled member ran => exact (within _ member).settled _ ran
  | copied member posts copies =>
    have served := copies.undelivered
    have sent := (within _ member).sent _ _ _ posts
    omega
  | left member ran => exact (within _ member).left _ ran
  | @handed turn after state schedule first rest member ran _ drained delivered =>
    have taken := Schedule.inFlight_drain drained
    have handed := undelivered_deliverAll_le delivered
    have whole := (within _ member).left _ ran
    simp only [State.undelivered, List.length_append] at taken handed whole ⊢
    omega

end Network

end Lockstep
