import Lockstep.Proofs.Network.Unfolding

/-!
Where a run stops, and what it counts as idle.

A run that completes has taken every turn of its ticks and none of them has failed; one that fails has
come to the first turn whose step or dispatch fails, and nothing due in the next tick has been
delivered. In either case a node's idle count is that of its unchanged steps and the idle ticks are
those whole ticks in which no node changed (`Reckoned`), so that a tick cut short leaves the counts
where its turns have brought them.
-/
namespace Lockstep.Network

variable {ρ σ : Type} {network : Network ρ σ} {start state after : State ρ σ}
  {scene : Scene ρ σ} {past : List (Turn ρ σ)} {number taken : Nat} {stage : Stage}

/-! ### Turns that fail -/

namespace Turn

/-- The step of the turn is a failure. -/
def StepFails (network : Network ρ σ) (turn : Turn ρ σ) : Prop :=
  ∃ stepped error, turn.stepped network = .ok stepped ∧ stepped.outcome = .failed error

/-- The state that the step of a turn leaves, with the message taken out of the outbox. -/
def posted (turn : Turn ρ σ) (stepped : Node.Stepped σ) : State ρ σ :=
  { turn.before with
    nodes := turn.before.nodes.setIfInBounds turn.index stepped.node.takeOutbox.2
    pool := stepped.pool
    shared := stepped.shared }

/-- The step of the turn is none, but the dispatch of its message is. -/
def DispatchFails (network : Network ρ σ) (turn : Turn ρ σ) : Prop :=
  ∃ stepped slot stop, turn.stepped network = .ok stepped ∧
    (∀ error, stepped.outcome ≠ .failed error) ∧ stepped.node.outbox = some slot ∧
    network.dispatch turn.tick turn.index slot (turn.posted stepped) = .error stop

/-- Nothing has changed in the step of the turn. -/
def isUnchanged (network : Network ρ σ) (turn : Turn ρ σ) : Bool :=
  match turn.stepped network with
  | .ok stepped => stepped.outcome == .unchanged
  | .error _ => false

variable {turn : Turn ρ σ} {stepped : Node.Stepped σ}

/-- What a turn comes to, by its step. -/
theorem turn_eq (ran : turn.stepped network = .ok stepped) :
    network.turn turn.tick turn.before turn.index =
      match stepped.outcome with
      | .failed error =>
        .error (.failure ({ turn.before with pool := stepped.pool, shared := stepped.shared }.setNode
          turn.index stepped.node) turn.index (causeOf stepped.pool error))
      | _ =>
        match stepped.node.outbox with
        | none => .ok (turn.posted stepped)
        | some slot => network.dispatch turn.tick turn.index slot (turn.posted stepped) := by
  unfold Turn.stepped at ran
  cases found : turn.before.node turn.index with
  | error breach =>
    rw [found] at ran
    cases ran
  | ok node =>
    simp only [found, bind, Except.bind] at ran
    simp only [Network.turn, found, ran, guarded_ok, bind, Except.bind]
    rfl

/-- A turn that goes through has not failed. -/
theorem not_fails (ran : network.turn turn.tick turn.before turn.index = .ok after) :
    ¬ turn.StepFails network ∧ ¬ turn.DispatchFails network := by
  constructor
  · rintro ⟨stepped, error, known, failed⟩
    rw [turn_eq known, failed] at ran
    cases ran
  · rintro ⟨stepped, slot, stop, known, lasting, outbox, dispatched⟩
    rw [turn_eq known] at ran
    cases outcome : stepped.outcome with
    | failed error => exact lasting error outcome
    | unchanged | changed =>
      simp only [outcome, outbox, dispatched] at ran
      cases ran

/-- A turn that does not go through has failed in its step or in the dispatch of its message. -/
theorem fails {node : Nat} {cause : FailureCause}
    (ran : network.turn turn.tick turn.before turn.index = .error (.failure after node cause)) :
    turn.StepFails network ∨ turn.DispatchFails network := by
  cases known : turn.stepped network with
  | error breach =>
    unfold Turn.stepped at known
    cases found : turn.before.node turn.index with
    | error breach => simp [Network.turn, found, bind, Except.bind] at ran
    | ok node =>
      simp only [found, bind, Except.bind] at known
      simp [Network.turn, found, known, bind, Except.bind] at ran
  | ok stepped =>
    rw [turn_eq known] at ran
    cases outcome : stepped.outcome with
    | failed error => exact .inl ⟨stepped, error, known, outcome⟩
    | unchanged | changed =>
      cases outbox : stepped.node.outbox with
      | none =>
        simp only [outcome, outbox] at ran
        cases ran
      | some slot =>
        simp only [outcome, outbox] at ran
        refine .inr ⟨stepped, slot, _, known, fun error failed => ?_, outbox, ran⟩
        rw [outcome] at failed
        cases failed

end Turn

/-- Until a run stops, every turn has gone through. -/
theorem Unfolds.goes_on (unfolds : network.Unfolds start past number stage state)
    (lasting : stage ≠ .stopped) :
    ∀ turn ∈ past, ∃ after, network.turn turn.tick turn.before turn.index = .ok after := by
  induction unfolds with
  | first _ =>
    intro turn member
    cases member
  | turn _ _ ran ih =>
    intro turn member
    rcases List.mem_append.mp member with earlier | last
    · exact ih Stage.noConfusion turn earlier
    · rw [List.mem_singleton.mp last]
      exact ⟨_, ran⟩
  | stop => exact absurd rfl lasting
  | deliver _ _ ih => exact ih Stage.noConfusion
  | next _ _ ih => exact ih Stage.noConfusion

/-- A run that fails has come to the first turn that does. -/
theorem Fails.first {turn : Turn ρ σ} {cause : FailureCause}
    (failed : network.Fails start past turn after cause) :
    (∀ earlier ∈ past, ¬ earlier.StepFails network ∧ ¬ earlier.DispatchFails network) ∧
      (turn.StepFails network ∨ turn.DispatchFails network) := by
  refine ⟨fun earlier member => ?_, Turn.fails failed.failed⟩
  obtain ⟨left, ran⟩ := failed.unfolds.goes_on Stage.noConfusion earlier member
  exact Turn.not_fails ran

/-! ### Messages that are not due yet -/

/-- The last tick whose messages have been delivered at a stage of a tick. -/
def Stage.arrived (number : Nat) : Stage → Nat
  | .delivered => number + 1
  | _ => number

/-- Whatever has been sent and is not due by now is still on its way. -/
theorem Unfolds.waiting (valid : network.table.Valid) (sound : start.Sound network [])
    (unfolds : network.Unfolds start past number stage state) {due : Nat}
    (later : stage.arrived number < due) :
    (state.schedule.slotsAt due).map state.pool.letter =
      (past.flatMap (Turn.letters network)).filter (·.arrival == due) := by
  let Inv (past : List (Turn ρ σ)) (number : Nat) (stage : Stage) (scene : Scene ρ σ) : Prop :=
    ∀ due, stage.arrived number < due → scene.transit.filter (·.arrival == due) =
      (past.flatMap (Turn.letters network)).filter (·.arrival == due)
  suffices shown : ∃ scene, Depicts network [] state scene ∧ scene.Sound network ∧
      Inv past number stage scene by
    obtain ⟨scene, depicts, -, waits⟩ := shown
    rw [depicts.due, waits due later]
  refine unfolds.shows valid sound Inv (fun _ _ => rfl) ?_ ?_ ?_
  · intro past turn scene depicts sound inside waits
    obtain ⟨node, found⟩ := depicts.found inside
    obtain ⟨-, transit, -, -, -⟩ :=
      leftBy_plainTurn network turn.tick (depicts.station found)
    have left : Inv (past ++ [turn]) turn.tick .stopped
        (leftBy (network.plainTurn turn.tick scene turn.index)) := by
      intro due later
      rw [transit, List.filter_append, waits due later, List.flatMap_append, List.filter_append,
        List.flatMap_singleton, letters_eq valid depicts found]
    exact leads_of_leftBy left
  · intro past number scene _ waits due later
    have beyond : number + 1 < due := later
    obtain ⟨transit, -⟩ := deliverDue_rest (number + 1) scene
    rw [transit, ← waits due (Nat.lt_of_succ_lt beyond), List.filter_filter]
    refine List.filter_congr fun message _ => ?_
    by_cases here : message.arrival = due
    · simp [here, Nat.ne_of_gt beyond]
    · simp [here]
  · intro past number scene _ waits due later
    obtain ⟨-, transit, -⟩ := countTick_rest scene
    rw [transit]
    exact waits due later

/-! ### Idle steps and idle ticks -/

/-- How many steps of a node have changed nothing. -/
def idleSteps (network : Network ρ σ) (turns : List (Turn ρ σ)) (index : Nat) : Nat :=
  turns.countP fun turn => turn.index == index && turn.isUnchanged network

/-- No turn of a tick has changed anything. -/
def idleIn (network : Network ρ σ) (turns : List (Turn ρ σ)) (tick : Nat) : Bool :=
  (turns.filter (·.tick == tick)).all (Turn.isUnchanged network)

theorem idleSteps_append (turns : List (Turn ρ σ)) (turn : Turn ρ σ) (index : Nat) :
    network.idleSteps (turns ++ [turn]) index =
      network.idleSteps turns index +
        (turn.index == index && turn.isUnchanged network).toNat := by
  rw [idleSteps, List.countP_append, List.countP_singleton]
  cases turn.index == index && turn.isUnchanged network <;> rfl

theorem idleIn_append {turn : Turn ρ σ} {tick : Nat} (other : tick ≠ turn.tick)
    (turns : List (Turn ρ σ)) :
    network.idleIn (turns ++ [turn]) tick = network.idleIn turns tick := by
  simp only [idleIn, List.filter_append, List.filter_cons, List.filter_nil, beq_iff_eq,
    Ne.symm other, if_false, List.append_nil]

/-- A streak depends on its ticks alone. -/
theorem takeWhile_congr {first second : Nat → Bool} {ticks : List Nat}
    (same : ∀ tick ∈ ticks, first tick = second tick) :
    ticks.takeWhile first = ticks.takeWhile second := by
  induction ticks with
  | nil => rfl
  | cons tick rest ih =>
    obtain ⟨here, later⟩ := List.forall_mem_cons.mp same
    rw [List.takeWhile_cons, List.takeWhile_cons, here, ih later]

/-- The counts of a scene are those of the turns taken. -/
structure Reckoned (network : Network ρ σ) (past : List (Turn ρ σ)) (number taken : Nat)
    (scene : Scene ρ σ) : Prop where
  placed : Placed network.config.nodeCount number taken past
  idle : ∀ (index : Nat) (station : Station), scene.stations[index]? = some station →
    station.idle = network.idleSteps past index
  /-- What came of the turns of this tick is noted on the stations. -/
  noted : ∀ turn ∈ past, turn.tick = number → ∃ station,
    scene.stations[turn.index]? = some station ∧
      (station.last == some .unchanged) = turn.isUnchanged network
  idleTicks : scene.tally.idleTicks = (List.range number).countP (network.idleIn past)
  idleStreak : scene.tally.idleStreak =
    ((List.range number).reverse.takeWhile (network.idleIn past)).length

theorem opening_reckoned (network : Network ρ σ) (random : ρ) (shared : σ) :
    network.Reckoned [] 0 0 (network.opening random shared) where
  placed := rfl
  idle := by
    intro index station found
    obtain ⟨-, rfl⟩ := opening_found found
    rfl
  noted := by
    intro turn member
    cases member
  idleTicks := rfl
  idleStreak := rfl

namespace Reckoned

/-- A turn adds one step to its node's. It counts no ticks, because its own is not over. -/
theorem turn (valid : network.table.Valid) {turn : Turn ρ σ}
    (depicts : Depicts network [] turn.before scene) (inside : turn.index < network.config.nodeCount)
    (reckoned : network.Reckoned past turn.tick turn.index scene) :
    network.Reckoned (past ++ [turn]) turn.tick (turn.index + 1)
      (leftBy (network.plainTurn turn.tick scene turn.index)) := by
  obtain ⟨node, found⟩ := depicts.found inside
  have listed := depicts.station found
  obtain ⟨stepped, plain, ran, steps⟩ := turn.steps valid depicts found
  obtain ⟨stations, -, -, -, tally⟩ := leftBy_plainTurn network turn.tick listed
  rw [steps.plainly] at stations
  have unchanged : turn.isUnchanged network = (plain.outcome == .unchanged) := by
    rw [Turn.isUnchanged, ran, ← steps.outcome]
  have idle : plain.station.idle =
      (node.portray turn.before.pool).idle + (plain.outcome == .unchanged).toNat := by
    rw [← steps.plainly]
    exact Station.step_idle
  have last : plain.station.last = some plain.outcome := by
    rw [← steps.plainly]
    exact Station.step_last
  have earlier : ∀ tick < turn.tick,
      network.idleIn (past ++ [turn]) tick = network.idleIn past tick :=
    fun tick before => idleIn_append (Nat.ne_of_lt before) past
  refine ⟨reckoned.placed.turn, ?_, ?_, ?_, ?_⟩
  · intro index station seated
    rw [stations] at seated
    rw [idleSteps_append]
    rcases found_of_set seated with ⟨rfl, rfl⟩ | ⟨other, before⟩
    · rw [idle, reckoned.idle turn.index _ listed, beq_self_eq_true, Bool.true_and, unchanged]
    · rw [reckoned.idle index station before, beq_false_of_ne (Ne.symm other)]
      rfl
  · intro now member same
    rw [stations]
    rcases List.mem_append.mp member with old | new
    · -- the turns of this tick so far were those of the nodes before
      have taken : now.index < turn.index := by
        rcases (reckoned.placed.mem_iff now.tick now.index).mp ⟨now, old, rfl, rfl⟩ with
          ⟨before, -⟩ | ⟨-, taken⟩
        · omega
        · exact taken
      obtain ⟨station, seated, noted⟩ := reckoned.noted now old same
      refine ⟨station, ?_, noted⟩
      rwa [List.getElem?_set_ne (Nat.ne_of_gt taken)]
    · rw [List.mem_singleton.mp new]
      refine ⟨plain.station, List.getElem?_set_self (List.getElem?_eq_some_iff.mp listed).1, ?_⟩
      rw [last, unchanged]
      rfl
  · rw [tally]
    refine reckoned.idleTicks.trans (List.countP_congr fun tick member => ?_)
    rw [earlier tick (List.mem_range.mp member)]
  · rw [tally]
    refine reckoned.idleStreak.trans (congrArg List.length ?_)
    refine takeWhile_congr fun tick member => (earlier tick ?_).symm
    exact List.mem_range.mp (List.mem_reverse.mp member)

/-- Delivery changes nothing that is counted here. -/
theorem deliverDue (reckoned : network.Reckoned past number taken scene) (tick : Nat) :
    network.Reckoned past number taken (scene.deliverDue tick) := by
  obtain ⟨ticks, streak⟩ := deliverDue_idle tick scene
  refine ⟨reckoned.placed, ?_, ?_, ticks.trans reckoned.idleTicks, streak.trans reckoned.idleStreak⟩
  · intro index station found
    rw [stations_deliverDue, Option.map_eq_some_iff] at found
    obtain ⟨before, listed, rfl⟩ := found
    rw [← reckoned.idle index before listed]
    unfold Station.enqueue
    split <;> rfl
  · intro turn member same
    obtain ⟨station, listed, noted⟩ := reckoned.noted turn member same
    refine ⟨_, by rw [stations_deliverDue, listed, Option.map_some], ?_⟩
    rw [← noted]
    unfold Station.enqueue
    split <;> rfl

/-- Once all nodes have had their turns, the tick is idle if none of these has changed anything. -/
theorem isIdle_eq (reckoned : network.Reckoned past number network.config.nodeCount scene)
    (sound : scene.Sound network) : scene.isIdle = network.idleIn past number := by
  rw [Bool.eq_iff_iff, Scene.isIdle, idleIn, List.all_eq_true, List.all_eq_true]
  constructor
  · intro idle turn member
    obtain ⟨inPast, same⟩ := List.mem_filter.mp member
    obtain ⟨station, found, noted⟩ := reckoned.noted turn inPast (eq_of_beq same)
    rw [← noted]
    exact idle station (List.mem_of_getElem? found)
  · intro idle station member
    obtain ⟨index, found⟩ := List.getElem?_of_mem member
    have inside : index < network.config.nodeCount :=
      sound.count ▸ (List.getElem?_eq_some_iff.mp found).1
    obtain ⟨turn, inPast, same, rfl⟩ :=
      (reckoned.placed.mem_iff number index).mpr (.inr ⟨rfl, inside⟩)
    obtain ⟨other, listed, noted⟩ := reckoned.noted turn inPast same
    rw [found] at listed
    cases listed
    rw [noted]
    exact idle turn (List.mem_filter.mpr ⟨inPast, beq_iff_eq.mpr same⟩)

theorem countTick (reckoned : network.Reckoned past number network.config.nodeCount scene)
    (sound : scene.Sound network) : network.Reckoned past (number + 1) 0 scene.countTick := by
  have idle := reckoned.isIdle_eq sound
  obtain ⟨stations, -⟩ := countTick_rest scene
  refine ⟨reckoned.placed.next, ?_, ?_, ?_, ?_⟩
  · rw [stations]
    exact reckoned.idle
  · -- no turn of the next tick has been taken
    intro turn member same
    rcases (reckoned.placed.mem_iff turn.tick turn.index).mp ⟨turn, member, rfl, rfl⟩ with
      ⟨before, -⟩ | ⟨now, -⟩ <;> omega
  · rw [List.range_succ, List.countP_append, List.countP_singleton, ← reckoned.idleTicks, ← idle]
    unfold Scene.countTick
    split
    · rfl
    · rfl
  · rw [List.range_succ, List.reverse_append, List.reverse_singleton, List.singleton_append,
      List.takeWhile_cons, ← idle]
    unfold Scene.countTick
    split
    · rw [List.length_cons, ← reckoned.idleStreak]
    · rfl

theorem nodes (reckoned : network.Reckoned past number taken scene)
    (count : scene.stations.length = network.config.nodeCount) :
    (scene.stations.map Scene.reportStation).map (·.idleStepCount) =
      (List.range network.config.nodeCount).map (network.idleSteps past) := by
  rw [List.map_map]
  refine List.ext_getElem? fun index => ?_
  rw [List.getElem?_map, List.getElem?_map]
  cases found : scene.stations[index]? with
  | none =>
    have outside := List.getElem?_eq_none_iff.mp found
    rw [List.getElem?_eq_none (by rw [List.length_range]; omega)]
    rfl
  | some station =>
    have inside := (List.getElem?_eq_some_iff.mp found).1
    rw [List.getElem?_range (by omega)]
    exact congrArg some (reckoned.idle index station found)

end Reckoned

theorem reckoned_invariant (valid : network.table.Valid) (start : State ρ σ) :
    network.Invariant start network.Reckoned where
  begins := opening_reckoned network start.random start.shared
  turn _ _ _ depicts _ inside reckoned := reckoned.turn valid depicts inside
  deliver _ _ _ _ reckoned := reckoned.deliverDue _
  next _ _ _ sound reckoned := reckoned.countTick sound

/-! ### Runs -/

/-- Every node has had its turn in each of so many ticks, and none has failed. -/
structure Whole (network : Network ρ σ) (turns : List (Turn ρ σ)) (ticks : Nat) : Prop where
  places : turns.map Turn.place = fullTicks network.config.nodeCount ticks
  lasting : ∀ turn ∈ turns, ¬ turn.StepFails network ∧ ¬ turn.DispatchFails network

/-- The turns have come to the one of a node in a tick, which is the first to fail and has left this
state behind. -/
structure CutShort (network : Network ρ σ) (turns : List (Turn ρ σ)) (tick node : Nat)
    (cause : FailureCause) (final : State ρ σ) : Prop where
  inside : node < network.config.nodeCount
  places : turns.map Turn.place =
    fullTicks network.config.nodeCount tick ++ (List.range (node + 1)).map (tick, ·)
  first : ∀ turn ∈ turns,
    turn.StepFails network ∨ turn.DispatchFails network ↔ turn.place = (tick, node)
  last : ∃ turn, turns.getLast? = some turn ∧
    network.turn tick turn.before node = .error (.failure final node cause)
  /-- What is due in the next tick is still on its way. -/
  undelivered : (final.schedule.slotsAt (tick + 1)).map final.pool.letter =
    (turns.flatMap (Turn.letters network)).filter (·.arrival == tick + 1)

theorem Fails.cutShort {turn : Turn ρ σ} {cause : FailureCause} (valid : network.table.Valid)
    (sound : start.Sound network []) (failed : network.Fails start past turn after cause) :
    network.CutShort (past ++ [turn]) turn.tick turn.index cause after := by
  obtain ⟨lasting, fails⟩ := failed.first
  obtain ⟨scene, taken, depicts, -, rfl, placed⟩ :=
    (placed_invariant network start).shows valid sound failed.unfolds
  refine ⟨depicts.sound.count ▸ failed.inside, placed.turn, fun now member => ?_,
    ⟨turn, List.getLast?_concat, failed.failed⟩, ?_⟩
  · rcases List.mem_append.mp member with earlier | last
    · obtain ⟨step, dispatch⟩ := lasting now earlier
      refine ⟨fun either => (either.elim step dispatch).elim, fun same => ?_⟩
      -- the place of the turn that fails was not taken before
      obtain ⟨sameTick, sameIndex⟩ := Prod.mk.inj same
      rcases (placed.mem_iff now.tick now.index).mp ⟨now, earlier, rfl, rfl⟩ with
        ⟨before, -⟩ | ⟨-, before⟩ <;> omega
    · rw [List.mem_singleton.mp last]
      exact ⟨fun _ => rfl, fun _ => fails⟩
  · exact (failed.unfolds.stop failed.inside failed.failed).waiting valid sound
      (Nat.lt_succ_self turn.tick)

theorem Ends.whole {maxTicks ticks : Nat} {result : RunResult} {final : State ρ σ}
    (ends : network.Ends maxTicks start result final) (completed : result.outcome = .completed)
    (placed : Placed network.config.nodeCount ticks 0 (network.history maxTicks start)) :
    network.Whole (network.history maxTicks start) ticks := by
  have lasting : ∀ turn ∈ network.history maxTicks start,
      ∃ after, network.turn turn.tick turn.before turn.index = .ok after := by
    cases ends with
    | spent unfolds => exact unfolds.goes_on Stage.noConfusion
    | quit _ unfolds _ => exact unfolds.goes_on Stage.noConfusion
    | failed => cases completed
  refine ⟨placed.trans (List.append_nil _), fun turn member => ?_⟩
  obtain ⟨after, ran⟩ := lasting turn member
  exact Turn.not_fails ran

/-- However a run ends, it stops where it says and its idle counts are those of the turns it took: a
node's count is that of its steps that changed nothing, and a tick is idle if it was whole and all its
steps were. -/
theorem stops_reckoned {table : SymbolTable} {config : NetworkConfig} {program : Nat → Program σ}
    {router : Router} {source : Source ρ}
    (built : Network.build table config program router source = .ok network)
    (resting : network.Resting start) (maxTicks : Nat) :
    let turns := network.history maxTicks start
    ∃ result final, network.run maxTicks start = .ok (result, final) ∧
      (match result.outcome with
        | .completed => result.ticksRun ≤ maxTicks ∧ network.Whole turns result.ticksRun
        | .failed tick node cause => tick < maxTicks ∧ result.ticksRun = tick ∧
          network.CutShort turns tick node cause final) ∧
      result.nodes.map (·.idleStepCount) =
        (List.range config.nodeCount).map (network.idleSteps turns) ∧
      result.stats.idleTicks = (List.range result.ticksRun).countP (network.idleIn turns) ∧
      result.stats.consecutiveIdleTicks =
        ((List.range result.ticksRun).reverse.takeWhile (network.idleIn turns)).length := by
  intro turns
  obtain ⟨-, valid, rfl⟩ := build_eq_ok.mp built
  have sound := resting.sound valid
  obtain ⟨result, final, ran, ends⟩ := run_ends valid sound maxTicks
  obtain ⟨scene, depicts, ended⟩ := ends.shows (reckoned_invariant valid start) valid sound
  refine ⟨result, final, ran, ?_⟩
  rcases ended with ⟨ticks, early, rfl, reckoned⟩ |
    ⟨past, turn, cause, early, whole, fails, rfl, reckoned⟩
  · exact ⟨⟨early, ends.whole rfl reckoned.placed⟩, reckoned.nodes depicts.length,
      reckoned.idleTicks, reckoned.idleStreak⟩
  · refine ⟨⟨early, rfl, ?_⟩, reckoned.nodes depicts.length, reckoned.idleTicks,
      reckoned.idleStreak⟩
    rw [show turns = past ++ [turn] from whole]
    exact fails.cutShort valid sound

/-- Three ticks in which nothing happens. In the fourth the first node's message takes the only
buffer, so that the second fails. -/
theorem stops_reckoned_exhausted :
    ∃ (network : Network Nat Nat) (result : RunResult) (final : State Nat Nat),
      Network.build .standard { nodeCount := 3, capacity := 1 }
          (fun _ _ calls => .done (calls + 1, if 9 ≤ calls then .send else .continue)) Router.ring
          (Source.cycle [1, 3]) = .ok network ∧
        network.run 20 (network.initial 0 0) = .ok (result, final) ∧
        result.outcome = .failed 3 1 (.resourceExhausted 1) ∧
        network.CutShort (network.history 20 (network.initial 0 0)) 3 1 (.resourceExhausted 1) final ∧
        (List.range 3).map (network.idleSteps (network.history 20 (network.initial 0 0))) =
          [3, 3, 3] ∧
        (List.range 3).countP (network.idleIn (network.history 20 (network.initial 0 0))) = 3 := by
  let network : Network Nat Nat :=
    ⟨.standard, { nodeCount := 3, capacity := 1 },
      fun _ _ calls => .done (calls + 1, if 9 ≤ calls then .send else .continue), Router.ring,
      Source.cycle [1, 3]⟩
  have built : Network.build network.table network.config network.program network.router
      network.source = .ok network := rfl
  have evaluated : (network.run 20 (network.initial 0 0)).toOption.map (fun ran =>
      (ran.1.outcome, ran.1.ticksRun, ran.1.idleCounts, ran.1.stats.idleTicks)) =
        some (.failed 3 1 (.resourceExhausted 1), 3, [3, 3, 3], 3) := by
    decide +kernel
  obtain ⟨result, final, ran, stops, nodes, idleTicks, -⟩ :=
    stops_reckoned built (.initial 0 0) 20
  rw [ran] at evaluated
  obtain ⟨outcome, ticksRun, counts, idle⟩ : result.outcome = _ ∧ result.ticksRun = _ ∧
      result.idleCounts = _ ∧ result.stats.idleTicks = _ := by
    simpa [Except.toOption] using evaluated
  rw [outcome] at stops
  rw [ticksRun, idle] at idleTicks
  exact ⟨network, result, final, built, ran, outcome, stops.2.2, nodes.symm.trans counts,
    idleTicks.symm⟩

end Lockstep.Network
