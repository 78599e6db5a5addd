import Lockstep.Proofs.Network.Balance
import Lockstep.Proofs.Network.Conservation

/-!
How many buffers a run needs.

Runs of a network with a larger and with a smaller pool go through the same scenes as long as the
smaller pool has a buffer for every message (`Follows`). The first time it has none, its run fails,
and the other has more buffers in use than the smaller pool has. So the greatest number of buffers a
run had in use at once tells for every smaller pool what comes of its run (`peak_decides`).
-/
namespace Lockstep

namespace Station

variable {σ : Type} {table : SymbolTable} {program : Program σ} {full : Bool} {station : Station}
  {shared : σ}

/-- Only a station with something to send can tell that there is no buffer left. -/
theorem step_full (table : SymbolTable) (program : Program σ) (station : Station) (shared : σ) :
    station.step table program true shared = station.step table program false shared ∧
        (station.step table program false shared).outgoing = none ∨
      (station.step table program true shared).outcome = .failed .poolExhausted ∧
        (station.step table program false shared).outgoing.isSome := by
  unfold step
  split
  · exact .inl ⟨rfl, rfl⟩
  · dsimp only
    split
    · exact .inl ⟨rfl, rfl⟩
    · cases sends : (station.perform table program shared).sends with
      | false => exact .inl (by simp [conclude, sends])
      | true => exact .inr (by simp [conclude, sends])

/-- With a buffer left a step does not fail for want of one. -/
theorem step_not_exhausted :
    (station.step table program false shared).outcome ≠ .failed .poolExhausted := by
  unfold step
  split
  · exact fun same => by cases same
  · dsimp only
    split
    · exact fun same => by cases same
    · simp only [conclude, Bool.and_false, Bool.false_eq_true, if_false]
      exact Performance.outcome_ne_failed _ _

end Station

namespace Network

variable {ρ σ : Type} {network : Network ρ σ} {scene : Scene ρ σ} {capacity tick : Nat}

/-- The network with another number of buffers. -/
def withCapacity (network : Network ρ σ) (capacity : Nat) : Network ρ σ :=
  { network with config := { network.config with capacity } }

theorem withCapacity_address (network : Network ρ σ) (capacity : Nat) :
    (network.withCapacity capacity).address = network.address := by
  funext tick sender payload destinations random
  induction destinations generalizing random with
  | nil => rfl
  | cons destination rest ih =>
    simp only [address, ih]
    rfl

/-! ### The peak -/

theorem le_peak_mark (used : Nat) : scene.peak ≤ (scene.mark used).peak ∧
    used ≤ (scene.mark used).peak :=
  ⟨Nat.le_max_left _ _, Nat.le_max_right _ _⟩

theorem peak_le_plainSend (network : Network ρ σ) (tick sender : Nat) (payload : Cells)
    (destinations : List Nat) (scene : Scene ρ σ) :
    scene.peak ≤ (leftBy (network.plainSend tick sender payload destinations scene)).peak := by
  unfold plainSend
  split <;> exact Nat.le_max_left _ _

theorem peak_le_endTurn (network : Network ρ σ) (tick index used : Nat)
    (stepped : Station.Stepped σ) (after : Scene ρ σ) :
    after.peak ≤ (leftBy (network.endTurn tick index used stepped after)).peak := by
  unfold endTurn
  split
  · exact Nat.le_refl _
  · split
    · exact Nat.le_refl _
    · exact Nat.le_trans (le_peak_mark (used + 1)).1 (peak_le_plainSend ..)

/-- A message that is sent needs a buffer of its own. -/
theorem lt_peak_endTurn (network : Network ρ σ) (tick index used : Nat)
    {stepped : Station.Stepped σ} (lasting : ∀ error, stepped.outcome ≠ .failed error)
    (sends : stepped.outgoing.isSome) (after : Scene ρ σ) :
    used < (leftBy (network.endTurn tick index used stepped after)).peak := by
  obtain ⟨payload, words⟩ := Option.isSome_iff_exists.mp sends
  rw [endTurn_sends network tick index used lasting words after]
  exact Nat.le_trans (le_peak_mark (used + 1)).2 (peak_le_plainSend ..)

theorem peak_le_plainTurn (network : Network ρ σ) (tick index : Nat) (scene : Scene ρ σ) :
    scene.peak ≤ (leftBy (network.plainTurn tick scene index)).peak := by
  cases found : scene.stations[index]? with
  | none =>
    rw [plainTurn, found]
    exact Nat.le_refl _
  | some station =>
    rw [plainTurn_eq network tick found]
    exact peak_le_endTurn network tick index _ _
      { scene.setStation index (network.plainStep station scene index).station with
        shared := (network.plainStep station scene index).shared }

theorem peak_le_foldlM {items : List Nat} {work : Scene ρ σ → Nat → Except (Failure ρ σ) (Scene ρ σ)}
    (grows : ∀ (scene : Scene ρ σ) (item : Nat), scene.peak ≤ (leftBy (work scene item)).peak)
    (scene : Scene ρ σ) : scene.peak ≤ (leftBy (items.foldlM work scene)).peak := by
  induction items generalizing scene with
  | nil => exact Nat.le_refl _
  | cons item rest ih =>
    have first := grows scene item
    rw [List.foldlM_cons]
    cases worked : work scene item with
    | error failure =>
      rw [worked] at first
      exact first
    | ok after =>
      rw [worked] at first
      exact Nat.le_trans first (ih after)

theorem peak_finished (number : Nat) (scene : Scene ρ σ) :
    ((scene.deliverDue number).countTick).peak = scene.peak :=
  (countTick_rest _).2.2.1.trans (deliverDue_rest number scene).2.1

theorem peak_le_plainTick (network : Network ρ σ) (number : Nat) (scene : Scene ρ σ) :
    scene.peak ≤ (leftBy (network.plainTick number scene)).peak := by
  have turns : scene.peak ≤ (leftBy (network.plainTurns number scene)).peak :=
    peak_le_foldlM (fun scene index => peak_le_plainTurn network number index scene) scene
  rw [plainTick]
  cases turned : network.plainTurns number scene with
  | error failure =>
    rw [turned] at turns
    exact turns
  | ok after =>
    rw [turned] at turns
    exact turns.trans_eq (peak_finished (number + 1) after).symm

theorem peak_le_plainAdvance (network : Network ρ σ) (remaining number : Nat) (scene : Scene ρ σ) :
    scene.peak ≤ (network.plainAdvance remaining number scene).2.peak := by
  induction remaining generalizing number scene with
  | zero => exact Nat.le_refl _
  | succ remaining ih =>
    have ticked := peak_le_plainTick network number scene
    rw [plainAdvance]
    cases ran : network.plainTick number scene with
    | error failure =>
      rw [ran] at ticked
      exact ticked
    | ok after =>
      rw [ran] at ticked
      dsimp only
      split
      · exact ticked
      · exact Nat.le_trans ticked (ih _ _)

/-! ### Scenes that a smaller pool has room for -/

/-- The peak has seen the messages left, and is no more than a pool has room for. -/
structure Scene.Within (capacity : Nat) (scene : Scene ρ σ) : Prop where
  seen : scene.live ≤ scene.peak
  bounded : scene.peak ≤ capacity

theorem live_deliverOne_le (scene : Scene ρ σ) (message : Message) :
    (scene.deliverOne message).live ≤ scene.live + 1 := by
  unfold Scene.deliverOne
  split
  · exact Nat.le_succ _
  · rename_i station found
    split
    · exact Nat.le_succ _
    · have changed := sum_setStation found (·.inbox.length)
        { station with inbox := station.inbox ++ [message] }
      simp only [Scene.live, Scene.setStation, List.length_append, List.length_singleton]
        at changed ⊢
      omega

theorem live_deliverAll_le (messages : List Message) (scene : Scene ρ σ) :
    (messages.foldl Scene.deliverOne scene).live ≤ scene.live + messages.length := by
  induction messages generalizing scene with
  | nil => exact Nat.le_refl _
  | cons message rest ih =>
    have one := live_deliverOne_le scene message
    have others := ih (scene.deliverOne message)
    rw [List.length_cons]
    exact Nat.le_trans others (by omega)

/-- Delivery leaves no more messages than there were. -/
theorem live_deliverDue_le (tick : Nat) (scene : Scene ρ σ) :
    (scene.deliverDue tick).live ≤ scene.live := by
  have handed := live_deliverAll_le (scene.transit.filter (·.arrival == tick))
    { scene with transit := scene.transit.filter (·.arrival != tick) }
  have parts : (scene.transit.filter (·.arrival == tick)).length +
      (scene.transit.filter (·.arrival != tick)).length = scene.transit.length := by
    rw [← List.length_append]
    exact (List.filter_append_perm (·.arrival == tick) scene.transit).length_eq
  refine Nat.le_trans handed ?_
  simp only [Scene.live]
  omega

theorem Scene.Within.finish (within : scene.Within capacity) (number : Nat) :
    ((scene.deliverDue number).countTick).Within capacity := by
  obtain ⟨stations, transit, -⟩ := countTick_rest (scene.deliverDue number)
  have live : (scene.deliverDue number).countTick.live = (scene.deliverDue number).live := by
    rw [Scene.live, stations, transit, Scene.live]
  constructor
  · rw [live, peak_finished]
    exact Nat.le_trans (live_deliverDue_le number scene) within.seen
  · rw [peak_finished]
    exact within.bounded

/-- Work with the smaller pool has come to what it has come to with the larger one, or has failed for
want of a buffer where the larger pool has handed out more than the smaller one has. -/
def Follows (capacity : Nat) (small large : Except (Failure ρ σ) (Scene ρ σ)) : Prop :=
  small = large ∧ (leftBy large).Within capacity ∨
    (∃ failure, small = .error failure ∧ failure.cause = .resourceExhausted capacity) ∧
      capacity < (leftBy large).peak

theorem plainSend_follows (less : capacity < network.config.capacity)
    (within : scene.Within capacity) (sender : Nat) (payload : Cells) (destinations : List Nat) :
    Follows capacity
      ((network.withCapacity capacity).plainSend tick sender payload destinations scene)
      (network.plainSend tick sender payload destinations scene) := by
  have live := Nat.le_trans within.seen within.bounded
  have post : (network.withCapacity capacity).post = network.post := by
    funext tick sender payload destinations scene
    simp only [Network.post, withCapacity_address]
  by_cases room : destinations.length ≤ capacity - scene.live
  · have larger : destinations.length ≤ network.room scene := by
      rw [Network.room]
      omega
    have smaller : destinations.length ≤ (network.withCapacity capacity).room scene := room
    refine .inl ⟨?_, ?_, ?_⟩
    · rw [plainSend, plainSend, if_pos larger, if_pos smaller, post]
    · rw [plainSend, if_pos larger]
      simp only [leftBy, live_mark, live_post]
      exact Nat.le_max_right _ _
    · rw [plainSend, if_pos larger]
      exact Nat.max_le.mpr ⟨within.bounded, by omega⟩
  · have smaller : ¬ destinations.length ≤ (network.withCapacity capacity).room scene := room
    refine .inr ⟨⟨_, by rw [plainSend, if_neg smaller], rfl⟩, ?_⟩
    rw [plainSend]
    split
    · exact Nat.lt_of_lt_of_le (by omega) (Nat.le_max_right _ _)
    · exact Nat.lt_of_lt_of_le less (Nat.le_max_right _ _)

theorem endTurn_follows (less : capacity < network.config.capacity)
    (within : scene.Within capacity) (index used : Nat) {stepped : Station.Stepped σ}
    (lasting : stepped.outcome ≠ .failed .poolExhausted)
    (room : stepped.outgoing.isSome → used < capacity) :
    Follows capacity ((network.withCapacity capacity).endTurn tick index used stepped scene)
      (network.endTurn tick index used stepped scene) := by
  unfold endTurn
  cases outcome : stepped.outcome with
  | failed error =>
    cases error with
    | fault fault => exact .inl ⟨rfl, within⟩
    | poolExhausted => exact (lasting outcome).elim
  | unchanged | changed =>
    cases outgoing : stepped.outgoing with
    | none => exact .inl ⟨rfl, within⟩
    | some payload =>
      have fits : used < capacity := room (by rw [outgoing]; rfl)
      have marked : (scene.mark (used + 1)).Within capacity :=
        ⟨Nat.le_trans within.seen (le_peak_mark _).1, Nat.max_le.mpr ⟨within.bounded, fits⟩⟩
      exact plainSend_follows less marked ..

theorem plainTurn_follows (less : capacity < network.config.capacity)
    (within : scene.Within capacity) (index : Nat) :
    Follows capacity ((network.withCapacity capacity).plainTurn tick scene index)
      (network.plainTurn tick scene index) := by
  cases found : scene.stations[index]? with
  | none =>
    rw [plainTurn, plainTurn, found]
    exact .inl ⟨rfl, within⟩
  | some station =>
    have used : usedBy station scene ≤ capacity :=
      Nat.le_trans (Nat.sub_le _ _) (Nat.le_trans within.seen within.bounded)
    let step (full : Bool) : Station.Stepped σ :=
      station.step network.table (network.program index) full scene.shared
    have lasting : (step false).outcome ≠ .failed .poolExhausted := Station.step_not_exhausted
    have kept : Scene.Within capacity
        { scene.setStation index (step false).station with shared := (step false).shared } :=
      ⟨Nat.le_trans (live_setStation_le found Station.step_inbox_le) within.seen, within.bounded⟩
    -- The networks differ in what the step is told of the pool, and in nothing else.
    have small : (network.withCapacity capacity).plainStep station scene index =
      step (decide (capacity ≤ usedBy station scene)) := rfl
    have large : network.plainStep station scene index = step false := by
      rw [plainStep, decide_eq_false (by omega)]
    rw [plainTurn_eq _ tick found, plainTurn_eq _ tick found, small, large]
    by_cases room : usedBy station scene < capacity
    · rw [decide_eq_false (by omega)]
      exact endTurn_follows less kept index _ lasting fun _ => room
    · rw [decide_eq_true (by omega)]
      rcases Station.step_full network.table (network.program index) station scene.shared with
        ⟨same, nothing⟩ | ⟨failed, sends⟩
      · have alike : step true = step false := same
        have silent : (step false).outgoing = none := nothing
        rw [alike]
        exact endTurn_follows less kept index _ lasting fun sends => by simp [silent] at sends
      · have failing : (step true).outcome = .failed .poolExhausted := failed
        have sent : (step false).outgoing.isSome := sends
        refine .inr ⟨⟨_, by rw [endTurn, failing], rfl⟩, ?_⟩
        refine Nat.lt_of_le_of_lt (Nat.le_of_not_lt room) (lt_peak_endTurn _ _ _ _ ?_ sent _)
        intro error wrong
        rw [Station.outgoing_of_failed wrong] at sent
        cases sent

/-! ### Runs -/

/-- Steps that follow one another do so in a row. -/
theorem foldlM_follows {items : List Nat}
    {small large : Scene ρ σ → Nat → Except (Failure ρ σ) (Scene ρ σ)}
    (grows : ∀ (scene : Scene ρ σ) (item : Nat), scene.peak ≤ (leftBy (large scene item)).peak)
    (follows : ∀ (scene : Scene ρ σ) (item : Nat), scene.Within capacity →
      Follows capacity (small scene item) (large scene item))
    (within : scene.Within capacity) :
    Follows capacity (items.foldlM small scene) (items.foldlM large scene) := by
  induction items generalizing scene with
  | nil => exact .inl ⟨rfl, within⟩
  | cons item rest ih =>
    rw [List.foldlM_cons, List.foldlM_cons]
    rcases follows scene item within with ⟨same, inside⟩ | ⟨⟨failure, failed, cause⟩, more⟩
    · rw [same]
      cases worked : large scene item with
      | error failure =>
        rw [worked] at inside
        exact .inl ⟨rfl, inside⟩
      | ok after =>
        rw [worked] at inside
        exact ih inside
    · rw [failed]
      refine .inr ⟨⟨failure, rfl, cause⟩, ?_⟩
      cases worked : large scene item with
      | error failure =>
        rw [worked] at more
        exact more
      | ok after =>
        rw [worked] at more
        exact Nat.lt_of_lt_of_le more (peak_le_foldlM grows after)

theorem plainTick_follows (less : capacity < network.config.capacity)
    (within : scene.Within capacity) (number : Nat) :
    Follows capacity ((network.withCapacity capacity).plainTick number scene)
      (network.plainTick number scene) := by
  have turns : Follows capacity ((network.withCapacity capacity).plainTurns number scene)
      (network.plainTurns number scene) :=
    foldlM_follows (fun scene index => peak_le_plainTurn network number index scene)
      (fun scene index inside => plainTurn_follows less inside index) within
  rw [plainTick, plainTick]
  rcases turns with ⟨same, inside⟩ | ⟨⟨failure, failed, cause⟩, more⟩
  · rw [same]
    cases turned : network.plainTurns number scene with
    | error failure =>
      rw [turned] at inside
      exact .inl ⟨rfl, inside⟩
    | ok after =>
      rw [turned] at inside
      exact .inl ⟨rfl, inside.finish (number + 1)⟩
  · rw [failed]
    refine .inr ⟨⟨failure, rfl, cause⟩, ?_⟩
    cases turned : network.plainTurns number scene with
    | error failure =>
      rw [turned] at more
      exact more
    | ok after =>
      rw [turned] at more
      exact more.trans_eq (peak_finished (number + 1) after).symm

/-- A run with a smaller pool is the run with the larger one, or fails for want of a buffer where
that has needed more. -/
theorem plainAdvance_follows (less : capacity < network.config.capacity)
    (within : scene.Within capacity) (remaining number : Nat) :
    let small := (network.withCapacity capacity).plainAdvance remaining number scene
    let large := network.plainAdvance remaining number scene
    small = large ∧ large.2.peak ≤ capacity ∨
      small.1.failureCause = some (.resourceExhausted capacity) ∧ capacity < large.2.peak := by
  induction remaining generalizing number scene with
  | zero => exact .inl ⟨rfl, within.bounded⟩
  | succ remaining ih =>
    dsimp only
    rw [plainAdvance, plainAdvance]
    rcases plainTick_follows less within number with ⟨same, inside⟩ | ⟨⟨failure, failed, cause⟩, more⟩
    · rw [same]
      cases ticked : network.plainTick number scene with
      | error failure =>
        rw [ticked] at inside
        exact .inl ⟨rfl, inside.bounded⟩
      | ok after =>
        rw [ticked] at inside
        have quiet : (network.withCapacity capacity).plainQuiescent after =
          network.plainQuiescent after := rfl
        dsimp only
        rw [quiet]
        split
        · exact .inl ⟨rfl, inside.bounded⟩
        · exact ih inside (number + 1)
    · rw [failed]
      refine .inr ⟨congrArg some cause, ?_⟩
      cases ticked : network.plainTick number scene with
      | error failure =>
        rw [ticked] at more
        exact more
      | ok after =>
        rw [ticked] at more
        dsimp only
        split
        · exact more
        · exact Nat.lt_of_lt_of_le more (peak_le_plainAdvance network remaining (number + 1) after)

theorem opening_within (network : Network ρ σ) (random : ρ) (shared : σ) :
    (network.opening random shared).Within capacity := by
  refine ⟨Nat.le_of_eq ?_, Nat.zero_le _⟩
  refine (Nat.zero_add _).trans (List.sum_eq_zero_iff_forall_eq_nat.mpr fun amount member => ?_)
  simp only [opening, List.map_map, List.mem_map] at member
  obtain ⟨index, -, rfl⟩ := member
  rfl

/-- A run reports the peak of the scene it ends in. -/
theorem plainRun_peak (network : Network ρ σ) (maxTicks : Nat) (random : ρ) (shared : σ) :
    (network.plainRun maxTicks random shared).1.stats.peakInFlight =
      (network.plainRun maxTicks random shared).2.peak := by
  obtain ⟨outcome, ticksRun, reported⟩ :=
    plainAdvance_report network maxTicks 0 (network.opening random shared)
  exact congrArg (·.stats.peakInFlight) reported

/-- The peak of a run tells what comes of it with fewer buffers. If it is above their number, they run
out; otherwise the run is the same. So a run that has not used up its buffers is the same with more
of them. -/
theorem peak_decides {table : SymbolTable} {config : NetworkConfig} {program : Nat → Program σ}
    {router : Router} {source : Source ρ}
    (built : Network.build table config program router source = .ok network)
    (positive : 0 < capacity) (less : capacity ≤ config.capacity) {start other : State ρ σ}
    (resting : network.Resting start) (restingOther : (network.withCapacity capacity).Resting other)
    (random : other.random = start.random) (shared : other.shared = start.shared)
    (maxTicks : Nat) :
    Network.build table { config with capacity } program router source =
        .ok (network.withCapacity capacity) ∧
      ∃ result final smaller finalOther,
        network.run maxTicks start = .ok (result, final) ∧
        (network.withCapacity capacity).run maxTicks other = .ok (smaller, finalOther) ∧
        (capacity < result.stats.peakInFlight →
          smaller.failureCause = some (.resourceExhausted capacity)) ∧
        (result.stats.peakInFlight ≤ capacity → smaller = result) ∧
        ((∀ limit, smaller.failureCause ≠ some (.resourceExhausted limit)) → result = smaller) := by
  obtain ⟨settings, valid, known⟩ := build_eq_ok.mp built
  have sameTable : network.table = table := by rw [known]
  have sameConfig : network.config = config := by rw [known]
  subst sameTable sameConfig
  obtain ⟨final, ran, shown⟩ := run_depicts valid (resting.sound valid) maxTicks
  have validOther : (network.withCapacity capacity).table.Valid := valid
  obtain ⟨finalOther, ranOther, -⟩ :=
    run_depicts validOther (restingOther.sound validOther) maxTicks
  rw [random, shared] at ranOther
  refine ⟨build_eq_ok.mpr ⟨⟨settings.nodes, settings.positive, settings.ordered, positive⟩,
    valid, by rw [withCapacity, known]⟩, _, final, _, finalOther, ran, ranOther, ?_⟩
  rw [plainRun_peak]
  rcases Nat.eq_or_lt_of_le less with same | fewer
  · have bounded := shown.peak.trans_le (shown.sound.owned.bounded.trans_eq shown.sound.capacity)
    have equal : network.withCapacity capacity = network := by rw [withCapacity, same]
    rw [equal, same]
    exact ⟨fun more => (Nat.not_lt_of_le bounded more).elim, fun _ => rfl, fun _ => rfl⟩
  · rcases plainAdvance_follows fewer (opening_within network start.random start.shared) maxTicks 0
      with ⟨same, bounded⟩ | ⟨failed, more⟩
    · have equal := congrArg Prod.fst same
      exact ⟨fun more => (Nat.not_lt_of_le bounded more).elim, fun _ => equal, fun _ => equal.symm⟩
    · exact ⟨fun _ => failed, fun bounded => (Nat.not_lt_of_le bounded more).elim,
        fun lasting => (lasting capacity failed).elim⟩

/-- Four nodes that each send once to all others and halt have twelve messages on their way at once:
a pool of twelve is as good as one of sixteen, and a pool of eleven is too small. -/
theorem peak_decides_halting :
    ∃ (network : Network Nat Unit) (result smaller : RunResult)
      (final finalOther : State Nat Unit),
      Network.build .standard { nodeCount := 4, capacity := 16 }
          (fun _ => .ofView fun _ => .requestSend fun _ => .done .halt) Router.broadcast
          (Source.cycle [1, 3]) = .ok network ∧
        network.run 10 (network.initial 0 ()) = .ok (result, final) ∧
        result.stats.peakInFlight = 12 ∧
        (network.withCapacity 11).run 10 ((network.withCapacity 11).initial 0 ()) =
          .ok (smaller, finalOther) ∧
        smaller.failureCause = some (.resourceExhausted 11) ∧
        ∃ finalTwelve, (network.withCapacity 12).run 10 ((network.withCapacity 12).initial 0 ()) =
          .ok (result, finalTwelve) := by
  let network : Network Nat Unit :=
    ⟨.standard, { nodeCount := 4, capacity := 16 },
      fun _ => .ofView fun _ => .requestSend fun _ => .done .halt, Router.broadcast,
      Source.cycle [1, 3]⟩
  have built : Network.build network.table network.config network.program network.router
      network.source = .ok network := rfl
  have needed : (network.run 10 (network.initial 0 ())).map (·.1.stats.peakInFlight) = .ok 12 := by
    decide +kernel
  obtain ⟨-, result, final, smaller, finalOther, ran, ranOther, few, -, -⟩ :=
    peak_decides built (show 1 ≤ 11 by decide) (by decide) (.initial 0 ()) (.initial 0 ()) rfl
      rfl 10
  obtain ⟨-, sameResult, sameFinal, twelve, finalTwelve, ranAgain, ranTwelve, -, enough, -⟩ :=
    peak_decides built (show 1 ≤ 12 by decide) (by decide) (.initial 0 ()) (.initial 0 ()) rfl
      rfl 10
  rw [ran] at needed ranAgain
  cases ranAgain
  have peak : result.stats.peakInFlight = 12 := Except.ok.inj needed
  rw [enough (Nat.le_of_eq peak)] at ranTwelve
  exact ⟨network, result, smaller, final, finalOther, built, ran, peak, ranOther,
    few (by omega), finalTwelve, ranTwelve⟩

end Network

end Lockstep
