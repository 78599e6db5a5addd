import Lockstep.Machine.Call
import Lockstep.Machine.Stock
import Lockstep.Proofs.Network.Moments
import Lockstep.Proofs.Node.Stillness
import Lockstep.Proofs.Table.Created

/-!
Ending a run when the network is quiet loses nothing.

After an idle tick with no message left, every station is still (`still_of_idle`), so all that later
ticks do is count (`plainTick_still`). A run that does not stop for quiescence therefore ends with
the same report, but for the counts of ticks and idle steps (`RunResult.prolonged`).
-/
namespace Lockstep

/-- The report of a run some idle ticks later. -/
def RunResult.prolonged (ticks : Nat) (result : RunResult) : RunResult :=
  { result with
    ticksRun := result.ticksRun + ticks
    nodes := result.nodes.map fun node =>
      { node with idleStepCount := node.idleStepCount + ticks }
    stats := { result.stats with
      idleTicks := result.stats.idleTicks + ticks
      consecutiveIdleTicks := result.stats.consecutiveIdleTicks + ticks } }

namespace Network

variable {ρ σ : Type} {network : Network ρ σ} {state : State ρ σ} {scene after : Scene ρ σ}
  {act : Nat → Place → Interaction Signal} {index number : Nat}

/-- The network with the same settings, but for an end on quiescence. -/
def untiring (network : Network ρ σ) : Network ρ σ :=
  { network with config := { network.config with quiescence := none } }

/-- After how many ticks a run of at most `remaining` more stops because the network is quiet. -/
def quietAfter (network : Network ρ σ) : (remaining number : Nat) → State ρ σ → Option Nat
  | 0, _, _ => none
  | remaining + 1, number, state =>
    match network.tick number state with
    | .error _ => none
    | .ok after =>
      if after.allTerminated then none
      else if network.quiescent after then some (number + 1)
      else network.quietAfter remaining (number + 1) after

/-- After how many ticks a run stops because the network is quiet, if it does. -/
def stopsQuietly (network : Network ρ σ) (maxTicks : Nat) (start : State ρ σ) : Option Nat :=
  match network.begin start with
  | .error _ => none
  | .ok first => network.quietAfter maxTicks 0 first

/-! ### Still scenes -/

/-- No message is left and every station is still. -/
structure Scene.IsStill (network : Network ρ σ) (act : Nat → Place → Interaction Signal)
    (scene : Scene ρ σ) : Prop where
  transit : scene.transit = []
  stations : ∀ (index : Nat) (station : Station), scene.stations[index]? = some station →
    station.IsStill network.table (act index)

/-- The scene some idle ticks later. -/
def Scene.aged (ticks : Nat) (scene : Scene ρ σ) : Scene ρ σ :=
  { scene with
    stations := scene.stations.map (Station.aged ticks)
    tally := { scene.tally with
      idleTicks := scene.tally.idleTicks + ticks, idleStreak := scene.tally.idleStreak + ticks } }

theorem plainTurn_still (views : ∀ index, network.program index = .ofView (act index))
    (still : scene.IsStill network act) {station : Station}
    (found : scene.stations[index]? = some station) (tick : Nat) :
    network.plainTurn tick scene index = .ok (scene.setStation index (station.aged 1)) := by
  have stepped : network.plainStep station scene index =
      ⟨.unchanged, station.aged 1, none, scene.shared⟩ := by
    rw [plainStep, views]
    exact (still.stations index station found).step
  simp only [plainTurn, found, stepped]
  rfl

theorem Scene.IsStill.setStation (still : scene.IsStill network act) {station : Station}
    (found : scene.stations[index]? = some station) :
    (scene.setStation index (station.aged 1)).IsStill network act := by
  refine ⟨still.transit, fun probe other listed => ?_⟩
  rcases found_of_set listed with ⟨rfl, rfl⟩ | ⟨-, before⟩
  · exact (still.stations probe station found).aged 1
  · exact still.stations probe other before

theorem plainTurns_still (views : ∀ index, network.program index = .ofView (act index))
    (still : scene.IsStill network act) (tick : Nat) :
    network.plainTurns tick scene =
      .ok { scene with stations := scene.stations.map (Station.aged 1) } := by
  have taken : ∃ after, network.plainTurns tick scene = .ok after ∧
      after.IsStill network act ∧ after = { scene with
        stations := (scene.stations.take scene.stations.length).map (Station.aged 1) ++
          scene.stations.drop scene.stations.length } := by
    apply Leads.exists_ok
    apply plainTurns_leads fun taken after => after.IsStill network act ∧ after = { scene with
      stations := (scene.stations.take taken).map (Station.aged 1) ++ scene.stations.drop taken }
    · rintro index middle inside ⟨still, rfl⟩
      have length : ((scene.stations.take index).map (Station.aged 1)).length = index := by
        rw [List.length_map, List.length_take_of_le (Nat.le_of_lt inside)]
      have found : ((scene.stations.take index).map (Station.aged 1) ++
          scene.stations.drop index)[index]? = some scene.stations[index] := by
        rw [List.getElem?_append_right (Nat.le_of_eq length), length, Nat.sub_self,
          List.getElem?_drop, Nat.add_zero, List.getElem?_eq_getElem inside]
      rw [plainTurn_still views still found]
      refine ⟨still.setStation found, ?_⟩
      simp only [Scene.setStation]
      rw [List.set_append_right _ _ (Nat.le_of_eq length), length, Nat.sub_self,
        List.drop_eq_getElem_cons inside, List.set_cons_zero, List.take_add_one,
        List.getElem?_eq_getElem inside, List.map_append, List.append_assoc]
      rfl
    · exact ⟨still, rfl⟩
  obtain ⟨after, ran, -, rfl⟩ := taken
  rw [ran, List.take_length, List.drop_length, List.append_nil]

/-- A tick of a still scene counts itself and nothing else. -/
theorem plainTick_still (views : ∀ index, network.program index = .ofView (act index))
    (still : scene.IsStill network act) (number : Nat) :
    network.plainTick number scene = .ok (scene.aged 1) := by
  have turned := plainTurns_still views still number
  have idle : ∀ station ∈ scene.stations.map (Station.aged 1),
      (station.last == some .unchanged) = true := by
    intro station member
    obtain ⟨before, inside, rfl⟩ := List.mem_map.mp member
    obtain ⟨index, found⟩ := List.getElem?_of_mem inside
    exact beq_iff_eq.mpr (still.stations index before found).last
  have quiet : Scene.isIdle { scene with stations := scene.stations.map (Station.aged 1) } = true :=
    List.all_eq_true.mpr idle
  have delivered : Scene.deliverDue (number + 1)
      { scene with stations := scene.stations.map (Station.aged 1) } =
        { scene with stations := scene.stations.map (Station.aged 1) } := by
    simp [Scene.deliverDue, still.transit]
  rw [plainTick, turned, Except.map, delivered, Scene.countTick, if_pos quiet]
  rfl

theorem Scene.IsStill.aged (still : scene.IsStill network act) (ticks : Nat) :
    (scene.aged ticks).IsStill network act := by
  refine ⟨still.transit, fun index station found => ?_⟩
  simp only [Scene.aged, List.getElem?_map, Option.map_eq_some_iff] at found
  obtain ⟨before, listed, rfl⟩ := found
  exact (still.stations index before listed).aged ticks

theorem allTerminated_aged (ticks : Nat) :
    (scene.aged ticks).allTerminated = scene.allTerminated := by
  rw [Scene.allTerminated, Scene.aged, List.all_map]
  rfl

theorem aged_aged (first second : Nat) :
    (scene.aged first).aged second = scene.aged (first + second) := by
  simp [Scene.aged, Station.aged, Function.comp_def, Nat.add_assoc]

theorem report_aged (ticks : Nat) :
    (scene.aged ticks).report .completed (number + ticks) =
      (scene.report .completed number).prolonged ticks := by
  have dropped : (scene.stations.map (Station.aged ticks)).map (·.dropped) =
      scene.stations.map (·.dropped) := by
    rw [List.map_map]
    rfl
  have nodes : (scene.stations.map (Station.aged ticks)).map Scene.reportStation =
      (scene.stations.map Scene.reportStation).map fun node =>
        { node with idleStepCount := node.idleStepCount + ticks } := by
    rw [List.map_map, List.map_map]
    rfl
  simp only [Scene.report, Scene.aged, RunResult.prolonged, dropped, nodes]

/-- Without an end on quiescence a still scene lasts until the ticks are used up. -/
theorem plainAdvance_still (network : Network ρ σ)
    (views : ∀ index, network.program index = .ofView (act index))
    (untired : network.config.quiescence = none) (still : scene.IsStill network act)
    (running : scene.allTerminated = false) (remaining number : Nat) :
    network.plainAdvance remaining number scene =
      ((scene.report .completed number).prolonged remaining, scene.aged remaining) := by
  induction remaining generalizing number scene with
  | zero =>
    have same : scene.aged 0 = scene := by
      have stations : scene.stations.map (Station.aged 0) = scene.stations :=
        List.map_id' _
      simp [Scene.aged, stations]
    rw [plainAdvance, ← report_aged, same, Nat.add_zero]
  | succ remaining ih =>
    have quiet : network.plainQuiescent (scene.aged 1) = false := by
      rw [plainQuiescent, untired]
    have later := ih (still.aged 1) ((allTerminated_aged 1).trans running) (number + 1)
    rw [plainAdvance, plainTick_still views still]
    simp only [allTerminated_aged, running, quiet, Bool.or_self, Bool.false_eq_true, if_false]
    rw [later, ← report_aged, ← report_aged, aged_aged, Nat.add_comm 1, Nat.add_assoc,
      Nat.add_comm 1]

/-! ### Coming to rest -/

/-- Every cell that only the network writes, and that does not keep its word, starts as zero. -/
def Cleared (network : Network ρ σ) : Prop :=
  ∀ symbol ∈ network.table.symbols, symbol.writeProtected = true → symbol.copyToNext = false →
    ∀ index < network.config.nodeCount,
      symbol.initial.resolve index network.config.nodeCount = 0

theorem Cleared.seeded (cleared : network.Cleared) (valid : network.table.Valid)
    (inside : index < network.config.nodeCount) {symbol : SymbolId}
    (fleeting : network.table.Fleeting symbol) :
    (Memory.seeded network.table index network.config.nodeCount).readNext symbol = 0 := by
  obtain ⟨lost, guarded⟩ := fleeting
  rw [valid.copyPolicy_get, Option.map_eq_some_iff] at lost
  obtain ⟨entry, found, lost⟩ := lost
  rw [SymbolTable.Guards, valid.protection_get, found, Option.map_some] at guarded
  have start := cleared entry (List.mem_of_getElem? found) (Option.some.inj guarded) lost index
    inside
  simp [Memory.readNext, Memory.seeded, found, start]

/-- A station is what the step of some station at rest has left. -/
def HasStepped (network : Network ρ σ) (index : Nat) (station : Station) : Prop :=
  ∃ (before : Station) (seen : Scene ρ σ), before.AtRest network.table ∧
    before.place = ⟨index, network.config.nodeCount⟩ ∧ index < network.config.nodeCount ∧
    station = (network.plainStep before seen index).station

/-- After the turns of a tick every station has taken its step. -/
theorem plainTurns_stepped (valid : network.table.Valid) (sound : scene.Sound network)
    (ran : network.plainTurns number scene = .ok after) :
    after.Sound network ∧
      ∀ (index : Nat) (station : Station), after.stations[index]? = some station →
        network.HasStepped index station := by
  have taken : Leads (fun after => after.Sound network ∧
      ∀ (index : Nat) (station : Station), index < scene.stations.length →
        after.stations[index]? = some station → network.HasStepped index station) (fun _ => True)
      (network.plainTurns number scene) := by
    apply plainTurns_leads fun taken (after : Scene ρ σ) => after.Sound network ∧
      ∀ (index : Nat) (station : Station), index < taken → after.stations[index]? = some station →
        network.HasStepped index station
    · rintro index middle inside ⟨soundMiddle, stepped⟩
      rw [sound.count] at inside
      obtain ⟨own, found⟩ := soundMiddle.found inside
      obtain ⟨stations, -⟩ := leftBy_plainTurn network number found
      have soundNext := soundMiddle.turn valid number inside
      cases turned : network.plainTurn number middle index with
      | error failure => trivial
      | ok next =>
        rw [turned] at stations soundNext
        have set : next.stations = middle.stations.set index _ := stations
        refine ⟨soundNext, fun probe station before listed => ?_⟩
        rw [set] at listed
        rcases found_of_set listed with ⟨rfl, rfl⟩ | ⟨apart, same⟩
        · exact ⟨own, middle, soundMiddle.rests own (List.mem_of_getElem? found),
            soundMiddle.place probe own found, inside, rfl⟩
        · exact stepped probe station (by omega) same
    · exact ⟨sound, fun _ _ before => absurd before (Nat.not_lt_zero _)⟩
  rw [ran] at taken
  obtain ⟨soundAfter, stepped⟩ := taken
  refine ⟨soundAfter, fun index station found => stepped index station ?_ found⟩
  rw [sound.count, ← soundAfter.count]
  exact (List.getElem?_eq_some_iff.mp found).1

/-- After an idle tick with no message left, every station is still. -/
theorem still_of_idle (valid : network.table.Valid) (cleared : network.Cleared)
    (views : ∀ index, network.program index = .ofView (act index)) (sound : scene.Sound network)
    (ran : network.plainTick number scene = .ok after) (streak : 0 < after.tally.idleStreak)
    (empty : after.live = 0) : after.IsStill network act := by
  rw [plainTick] at ran
  cases turned : network.plainTurns number scene with
  | error failure =>
    rw [turned] at ran
    cases ran
  | ok turns =>
    rw [turned] at ran
    cases ran
    obtain ⟨-, stepped⟩ := plainTurns_stepped valid sound turned
    obtain ⟨stations, transit, -⟩ := countTick_rest (turns.deliverDue (number + 1))
    have idle := idle_of_streak streak
    obtain ⟨gone, consumed⟩ := live_eq_zero_iff.mp empty
    refine ⟨gone, fun index station found => ?_⟩
    have waiting := consumed station (List.mem_of_getElem? found)
    rw [stations] at found
    have last := List.all_eq_true.mp idle station (List.mem_of_getElem? found)
    rw [stations_deliverDue, Option.map_eq_some_iff] at found
    obtain ⟨own, listed, rfl⟩ := found
    -- nothing was delivered to it
    have same : own.enqueue ((turns.transit.filter (·.arrival == number + 1)).filter
        (·.destination == index)) = own := by
      unfold Station.enqueue at waiting ⊢
      split at waiting
      · rename_i halted
        rw [if_pos halted]
      · rename_i running
        rw [if_neg running, (List.append_eq_nil_iff.mp waiting).2, List.append_nil]
    rw [same] at last ⊢
    obtain ⟨before, seen, rests, place, inside, rfl⟩ := stepped index own listed
    rw [plainStep, views] at last ⊢
    rw [Station.step_last] at last
    refine rests.still valid (fun symbol fleeting => ?_) (Option.some.inj (beq_iff_eq.mp last))
    rw [place]
    exact cleared.seeded valid inside fleeting

/-! ### Runs -/

/-- `quietAfter` without the machinery. -/
def plainQuietAfter (network : Network ρ σ) : (remaining number : Nat) → Scene ρ σ → Option Nat
  | 0, _, _ => none
  | remaining + 1, number, scene =>
    match network.plainTick number scene with
    | .error _ => none
    | .ok after =>
      if after.allTerminated then none
      else if network.plainQuiescent after then some (number + 1)
      else network.plainQuietAfter remaining (number + 1) after

theorem quietAfter_eq (valid : network.table.Valid) (depicts : Depicts network [] state scene)
    (remaining number : Nat) :
    network.quietAfter remaining number state =
      network.plainQuietAfter remaining number scene := by
  induction remaining generalizing number state scene with
  | zero => rfl
  | succ remaining ih =>
    have ticked := tick_refines valid depicts number
    rw [quietAfter, plainQuietAfter]
    cases ran : network.tick number state with
    | ok after =>
      rw [ran] at ticked
      obtain ⟨shown, known, depicts⟩ := ticked.of_ok
      rw [known]
      simp only [depicts.allTerminated_eq, depicts.quiescent_eq, ih depicts]
    | error stop =>
      rw [ran] at ticked
      cases stop with
      | breach breach => exact ticked.not_breach.elim
      | failure after node cause =>
        obtain ⟨failure, known, -⟩ := ticked.of_failure
        rw [known]

/-- A tick leaves a sound scene. -/
theorem plainTick_sound (valid : network.table.Valid) (sound : scene.Sound network)
    (ran : network.plainTick number scene = .ok after) : after.Sound network := by
  have left := sound.plainTick valid number
  rwa [ran] at left

theorem untiring_address : network.untiring.address = network.address := by
  funext tick sender payload destinations random
  induction destinations generalizing random with
  | nil => rfl
  | cons destination rest ih =>
    simp only [address, ih]
    rfl

/-- The end on quiescence has no part in a tick. -/
theorem untiring_plainTick : network.untiring.plainTick = network.plainTick := by
  have turn : network.untiring.plainTurn = network.plainTurn := by
    funext tick scene index
    simp only [plainTurn, plainDispatch, plainSend, post, untiring_address]
    rfl
  funext number scene
  rw [plainTick, plainTick, plainTurns, plainTurns, turn]

/-- Runs with and without an end on quiescence are the same up to that end, and after it the one
that goes on only counts. -/
theorem plainAdvance_untiring (valid : network.table.Valid) (cleared : network.Cleared)
    (views : ∀ index, network.program index = .ofView (act index)) {window : Nat}
    (asked : network.config.quiescence = some window) (positive : 1 ≤ window)
    (sound : scene.Sound network) (remaining number : Nat) :
    match network.plainQuietAfter remaining number scene with
    | none => network.untiring.plainAdvance remaining number scene =
        network.plainAdvance remaining number scene
    | some ticks => number < ticks ∧ ticks ≤ number + remaining ∧
        (network.plainAdvance remaining number scene).1.outcome = .completed ∧
        (network.plainAdvance remaining number scene).1.ticksRun = ticks ∧
        (network.untiring.plainAdvance remaining number scene).1 =
          (network.plainAdvance remaining number scene).1.prolonged
            (number + remaining - ticks) := by
  induction remaining generalizing number scene with
  | zero => rfl
  | succ remaining ih =>
    have never : ∀ scene : Scene ρ σ, network.untiring.plainQuiescent scene = false := fun _ => rfl
    rw [plainQuietAfter, plainAdvance, plainAdvance, untiring_plainTick]
    cases ran : network.plainTick number scene with
    | error failure => rfl
    | ok after =>
      have soundAfter := plainTick_sound valid sound ran
      cases ended : after.allTerminated with
      | true => simp [ended]
      | false =>
        cases quiet : network.plainQuiescent after with
        | true =>
          have still : after.IsStill network.untiring act := by
            have quietly := quiet
            rw [plainQuiescent, asked] at quietly
            simp only [Bool.and_eq_true, decide_eq_true_eq, beq_iff_eq] at quietly
            have same := still_of_idle valid cleared views sound ran (by omega) quietly.2
            exact ⟨same.transit, same.stations⟩
          have later := plainAdvance_still network.untiring views rfl still ended remaining
            (number + 1)
          simp only [ended, quiet, never, Bool.false_or, Bool.or_true, if_true,
            Bool.false_eq_true, if_false, later]
          refine ⟨Nat.lt_succ_self _, by omega, rfl, rfl, ?_⟩
          rw [show number + (remaining + 1) - (number + 1) = remaining by omega]
        | false =>
          have rest := ih soundAfter (number + 1)
          simp only [ended, quiet, never, Bool.or_self, Bool.false_eq_true, if_false]
          cases known : network.plainQuietAfter remaining (number + 1) after with
          | none =>
            rw [known] at rest
            exact rest
          | some ticks =>
            rw [known] at rest
            obtain ⟨first, last, facts⟩ := rest
            rw [show number + 1 + remaining = number + (remaining + 1) by omega] at last facts
            exact ⟨Nat.lt_of_succ_lt first, last, facts⟩

theorem cleared_create {layout : TableLayout} (made : network.table = .create layout []) :
    network.Cleared := by
  intro symbol member _ lost index _
  rw [SymbolTable.initial_of_lost (made ▸ member) lost]
  rfl

/-- A run that stops because the network is quiet has come to the same end as one that goes on: only
the ticks and the idle steps differ, by the ticks that were left. -/
theorem quiescence_exit_sound {table : SymbolTable} {config : NetworkConfig}
    {program : Nat → Program σ} {router : Router} {source : Source ρ}
    (built : Network.build table config program router source = .ok network)
    (cleared : network.Cleared)
    (views : ∀ index, ∃ act, network.program index = .ofView act) {window : Nat}
    (asked : network.config.quiescence = some window) (positive : 1 ≤ window)
    {start other : State ρ σ} (resting : network.Resting start)
    (otherResting : network.untiring.Resting other) (random : other.random = start.random)
    (shared : other.shared = start.shared) (maxTicks : Nat) :
    ∃ first second final otherFinal,
      network.run maxTicks start = .ok (first, final) ∧
      network.untiring.run maxTicks other = .ok (second, otherFinal) ∧
      (network.stopsQuietly maxTicks start = none → second = first) ∧
      ∀ ticks, network.stopsQuietly maxTicks start = some ticks →
        ticks ≤ maxTicks ∧ first.outcome = .completed ∧ first.ticksRun = ticks ∧
          second.outcome = .completed ∧ second.ticksRun = maxTicks ∧
          second = first.prolonged (maxTicks - ticks) := by
  obtain ⟨-, valid, same⟩ := build_eq_ok.mp built
  have valid : network.table.Valid := by
    rw [same]
    exact valid
  obtain ⟨act, views⟩ := Classical.axiomOfChoice views
  obtain ⟨final, ran, -⟩ := run_depicts valid (resting.sound valid) maxTicks
  have otherSound : other.Sound network.untiring [] := otherResting.sound valid
  obtain ⟨otherFinal, otherRan, -⟩ := run_depicts (show network.untiring.table.Valid from valid)
    otherSound maxTicks
  obtain ⟨begun, started, depicts⟩ := begin_depicts valid (resting.sound valid)
  have compared := plainAdvance_untiring valid cleared views asked positive
    (opening_sound network start.random start.shared) maxTicks 0
  have quiet : network.stopsQuietly maxTicks start =
      network.plainQuietAfter maxTicks 0 (network.opening start.random start.shared) := by
    rw [stopsQuietly, started]
    exact quietAfter_eq valid depicts maxTicks 0
  refine ⟨_, _, final, otherFinal, ran, otherRan, fun never => ?_, fun ticks stops => ?_⟩
  · rw [quiet] at never
    rw [never] at compared
    rw [random, shared]
    exact congrArg Prod.fst compared
  · rw [quiet] at stops
    rw [stops, Nat.zero_add] at compared
    obtain ⟨-, last, completed, count, longer⟩ := compared
    have later : (network.untiring.plainRun maxTicks start.random start.shared).1 =
        (network.plainRun maxTicks start.random start.shared).1.prolonged (maxTicks - ticks) :=
      longer
    rw [random, shared, later]
    exact ⟨last, completed, count, completed,
      (congrArg (· + (maxTicks - ticks)) count).trans (Nat.add_sub_cancel' last), rfl⟩

theorem quiescence_exit_sound_silent :
    ∃ network : Network Nat Unit,
      Network.build .standard { quiescence := some 2 } (fun _ => Bytecode.silent.program)
          Router.ring (Source.cycle [1, 3]) = .ok network ∧
        ∃ first second final otherFinal,
          network.run 5 (network.initial 0 ()) = .ok (first, final) ∧
          network.untiring.run 5 (network.untiring.initial 0 ()) = .ok (second, otherFinal) ∧
          first.ticksRun = 2 ∧ second = first.prolonged 3 := by
  let network : Network Nat Unit :=
    ⟨.standard, { quiescence := some 2 }, fun _ => Bytecode.silent.program, Router.ring,
      Source.cycle [1, 3]⟩
  have built : Network.build network.table network.config network.program network.router
      network.source = .ok network := rfl
  obtain ⟨first, second, final, otherFinal, ran, otherRan, -, longer⟩ :=
    quiescence_exit_sound built (cleared_create rfl) (fun _ => ⟨_, rfl⟩) rfl (by decide)
      (.initial 0 ()) (.initial 0 ()) rfl rfl 5
  obtain ⟨-, -, count, -, -, longer⟩ := longer 2 (by decide +kernel)
  exact ⟨network, built, first, second, final, otherFinal, ran, otherRan, count, longer⟩

end Network

end Lockstep
