import Lockstep.Proofs.Network.History

/-!
Runs, turn by turn.

`Unfolds` are the moments of a run with the turns that have led to each. What one turn and one
delivery keep up holds at all of them (`Unfolds.shows`). A run takes the turns of its history and ends
at such a moment (`run_ends`), and in each tick the nodes have their turns in order (`Placed`).
-/
namespace Lockstep.Network

variable {ρ σ : Type} {network : Network ρ σ} {start state before after final : State ρ σ}
  {past : List (Turn ρ σ)} {number taken : Nat} {stage : Stage}

/-- The moments of a run, as in `Occurs`, with the turns taken so far. -/
inductive Unfolds (network : Network ρ σ) (start : State ρ σ) :
    List (Turn ρ σ) → Nat → Stage → State ρ σ → Prop where
  | first {state : State ρ σ} : network.begin start = .ok state →
      Unfolds network start [] 0 (.turns 0) state
  | turn {past : List (Turn ρ σ)} {number taken : Nat} {state after : State ρ σ} :
      Unfolds network start past number (.turns taken) state → taken < state.nodes.size →
      network.turn number state taken = .ok after →
      Unfolds network start (past ++ [⟨number, taken, state⟩]) number (.turns (taken + 1)) after
  | stop {past : List (Turn ρ σ)} {number taken node : Nat} {state after : State ρ σ}
      {cause : FailureCause} :
      Unfolds network start past number (.turns taken) state → taken < state.nodes.size →
      network.turn number state taken = .error (.failure after node cause) →
      Unfolds network start (past ++ [⟨number, taken, state⟩]) number .stopped after
  | deliver {past : List (Turn ρ σ)} {number : Nat} {state after : State ρ σ} :
      Unfolds network start past number (.turns state.nodes.size) state →
      deliverDue (number + 1) state = .ok after →
      Unfolds network start past number .delivered after
  | next {past : List (Turn ρ σ)} {number : Nat} {state : State ρ σ} :
      Unfolds network start past number .delivered state →
      (state.countTick.allTerminated || network.quiescent state.countTick) = false →
      Unfolds network start past (number + 1) (.turns 0) state.countTick

theorem Unfolds.occurs (unfolds : network.Unfolds start past number stage state) :
    network.Occurs start number stage state := by
  induction unfolds with
  | first begun => exact .first begun
  | turn _ inside ran ih => exact ih.turn inside ran
  | stop _ inside ran ih => exact ih.stop inside ran
  | deliver _ delivered ih => exact ih.deliver delivered
  | next _ lasting ih => exact ih.next lasting

theorem Occurs.unfolds (occurs : network.Occurs start number stage state) :
    ∃ past, network.Unfolds start past number stage state := by
  induction occurs with
  | first begun => exact ⟨_, .first begun⟩
  | turn _ inside ran ih =>
    obtain ⟨past, unfolds⟩ := ih
    exact ⟨_, unfolds.turn inside ran⟩
  | stop _ inside ran ih =>
    obtain ⟨past, unfolds⟩ := ih
    exact ⟨_, unfolds.stop inside ran⟩
  | deliver _ delivered ih =>
    obtain ⟨past, unfolds⟩ := ih
    exact ⟨_, unfolds.deliver delivered⟩
  | next _ lasting ih =>
    obtain ⟨past, unfolds⟩ := ih
    exact ⟨_, unfolds.next lasting⟩

theorem toOption_eq_some_iff {ε α : Type} {work : Except ε α} {result : α} :
    work.toOption = some result ↔ work = .ok result := by
  cases work <;> simp [Except.toOption]

/-! ### Facts that hold at every moment -/

/-- What the opening has and every part of a tick keeps holds of the scene of every moment and the
turns before it. -/
theorem Unfolds.shows (valid : network.table.Valid) (sound : start.Sound network [])
    (Inv : List (Turn ρ σ) → Nat → Stage → Scene ρ σ → Prop)
    (begins : Inv [] 0 (.turns 0) (network.opening start.random start.shared))
    (turn : ∀ (past : List (Turn ρ σ)) (turn : Turn ρ σ) (scene : Scene ρ σ),
      Depicts network [] turn.before scene → scene.Sound network →
      turn.index < network.config.nodeCount → Inv past turn.tick (.turns turn.index) scene →
      Leads (Inv (past ++ [turn]) turn.tick (.turns (turn.index + 1)))
        (fun failure => Inv (past ++ [turn]) turn.tick .stopped failure.scene)
        (network.plainTurn turn.tick scene turn.index))
    (deliver : ∀ (past : List (Turn ρ σ)) (number : Nat) (scene : Scene ρ σ), scene.Sound network →
      Inv past number (.turns network.config.nodeCount) scene →
      Inv past number .delivered (scene.deliverDue (number + 1)))
    (next : ∀ (past : List (Turn ρ σ)) (number : Nat) (scene : Scene ρ σ), scene.Sound network →
      Inv past number .delivered scene → Inv past (number + 1) (.turns 0) scene.countTick)
    (unfolds : network.Unfolds start past number stage state) :
    ∃ scene, Depicts network [] state scene ∧ scene.Sound network ∧ Inv past number stage scene := by
  induction unfolds with
  | first begun =>
    obtain ⟨first, known, depicts⟩ := begin_depicts valid sound
    rw [known] at begun
    cases begun
    exact ⟨_, depicts, opening_sound _ _ _, begins⟩
  | @turn past number taken before after _ inside ran ih =>
    obtain ⟨scene, depicts, soundScene, holds⟩ := ih
    rw [depicts.sound.count] at inside
    have refines := turn_refines number valid depicts inside
    rw [ran] at refines
    obtain ⟨turned, known, shown⟩ := refines.of_ok
    have leads := turn past ⟨number, taken, before⟩ scene depicts soundScene inside holds
    have soundAfter := soundScene.turn valid number inside
    rw [known] at leads soundAfter
    exact ⟨turned, shown, soundAfter, leads⟩
  | @stop past number taken node before after cause _ inside ran ih =>
    obtain ⟨scene, depicts, soundScene, holds⟩ := ih
    rw [depicts.sound.count] at inside
    have refines := turn_refines number valid depicts inside
    rw [ran] at refines
    obtain ⟨failure, known, shown, -⟩ := refines.of_failure
    have leads := turn past ⟨number, taken, before⟩ scene depicts soundScene inside holds
    have soundAfter := soundScene.turn valid number inside
    rw [known] at leads soundAfter
    exact ⟨failure.scene, shown, soundAfter, leads⟩
  | @deliver past number before after _ delivered ih =>
    obtain ⟨scene, depicts, soundScene, holds⟩ := ih
    obtain ⟨known, same, shown⟩ := deliverDue_depicts depicts (number + 1)
    rw [same] at delivered
    cases delivered
    rw [depicts.sound.count] at holds
    exact ⟨_, shown, soundScene.deliverDue _, deliver past number scene soundScene holds⟩
  | @next past number state _ _ ih =>
    obtain ⟨scene, depicts, soundScene, holds⟩ := ih
    exact ⟨_, depicts.countTick, soundScene.countTick, next past number scene soundScene holds⟩

/-- The same without the turns. -/
theorem Occurs.shows (valid : network.table.Valid) (sound : start.Sound network [])
    (Inv : Nat → Stage → Scene ρ σ → Prop)
    (begins : Inv 0 (.turns 0) (network.opening start.random start.shared))
    (turn : ∀ (number taken : Nat) (scene : Scene ρ σ), scene.Sound network →
      taken < network.config.nodeCount → Inv number (.turns taken) scene →
      Leads (Inv number (.turns (taken + 1))) (fun failure => Inv number .stopped failure.scene)
        (network.plainTurn number scene taken))
    (deliver : ∀ (number : Nat) (scene : Scene ρ σ), scene.Sound network →
      Inv number (.turns network.config.nodeCount) scene →
      Inv number .delivered (scene.deliverDue (number + 1)))
    (next : ∀ (number : Nat) (scene : Scene ρ σ), scene.Sound network →
      Inv number .delivered scene → Inv (number + 1) (.turns 0) scene.countTick)
    (occurs : network.Occurs start number stage state) :
    ∃ scene, Depicts network [] state scene ∧ scene.Sound network ∧ Inv number stage scene := by
  obtain ⟨past, unfolds⟩ := occurs.unfolds
  exact unfolds.shows valid sound (fun _ => Inv) begins
    (fun _ now scene _ => turn now.tick now.index scene) (fun _ => deliver) fun _ => next

/-- How many turns of a tick may have been taken at a stage of it, with so many nodes. -/
def Stage.Admits (count : Nat) : Stage → Nat → Prop
  | .turns taken, so => so = taken
  | .delivered, so => so = count
  | .stopped, so => 0 < so ∧ so ≤ count

/-- A fact about the turns of the past, the tick, how many turns of it have been taken and the scene
that the opening has and every part of a tick keeps, however the turns end. -/
structure Invariant (network : Network ρ σ) (start : State ρ σ)
    (Inv : List (Turn ρ σ) → Nat → Nat → Scene ρ σ → Prop) : Prop where
  begins : Inv [] 0 0 (network.opening start.random start.shared)
  turn : ∀ (past : List (Turn ρ σ)) (turn : Turn ρ σ) (scene : Scene ρ σ),
    Depicts network [] turn.before scene → scene.Sound network →
    turn.index < network.config.nodeCount → Inv past turn.tick turn.index scene →
    Inv (past ++ [turn]) turn.tick (turn.index + 1)
      (leftBy (network.plainTurn turn.tick scene turn.index))
  deliver : ∀ (past : List (Turn ρ σ)) (number : Nat) (scene : Scene ρ σ), scene.Sound network →
    Inv past number network.config.nodeCount scene →
    Inv past number network.config.nodeCount (scene.deliverDue (number + 1))
  next : ∀ (past : List (Turn ρ σ)) (number : Nat) (scene : Scene ρ σ), scene.Sound network →
    Inv past number network.config.nodeCount scene → Inv past (number + 1) 0 scene.countTick

theorem Invariant.shows {Inv : List (Turn ρ σ) → Nat → Nat → Scene ρ σ → Prop}
    (invariant : network.Invariant start Inv) (valid : network.table.Valid)
    (sound : start.Sound network []) (unfolds : network.Unfolds start past number stage state) :
    ∃ scene taken, Depicts network [] state scene ∧ scene.Sound network ∧
      stage.Admits network.config.nodeCount taken ∧ Inv past number taken scene := by
  have shown := unfolds.shows valid sound
    (fun past number stage scene =>
      ∃ taken, stage.Admits network.config.nodeCount taken ∧ Inv past number taken scene)
    ⟨0, rfl, invariant.begins⟩ ?_ ?_ ?_
  · obtain ⟨scene, depicts, soundScene, taken, admits, holds⟩ := shown
    exact ⟨scene, taken, depicts, soundScene, admits, holds⟩
  · rintro past now scene depicts soundScene inside ⟨taken, rfl, holds⟩
    have left := invariant.turn past now scene depicts soundScene inside holds
    cases ran : network.plainTurn now.tick scene now.index with
    | ok after =>
      rw [ran] at left
      exact ⟨_, rfl, left⟩
    | error failure =>
      rw [ran] at left
      exact ⟨_, ⟨Nat.succ_pos _, inside⟩, left⟩
  · rintro past number scene soundScene ⟨taken, rfl, holds⟩
    exact ⟨_, rfl, invariant.deliver past number scene soundScene holds⟩
  · rintro past number scene soundScene ⟨taken, rfl, holds⟩
    exact ⟨_, rfl, invariant.next past number scene soundScene holds⟩

theorem Invariant.and {Inv Other : List (Turn ρ σ) → Nat → Nat → Scene ρ σ → Prop}
    (invariant : network.Invariant start Inv) (other : network.Invariant start Other) :
    network.Invariant start fun past number taken scene =>
      Inv past number taken scene ∧ Other past number taken scene where
  begins := ⟨invariant.begins, other.begins⟩
  turn past turn scene depicts sound inside holds :=
    ⟨invariant.turn past turn scene depicts sound inside holds.1,
      other.turn past turn scene depicts sound inside holds.2⟩
  deliver past number scene sound holds :=
    ⟨invariant.deliver past number scene sound holds.1,
      other.deliver past number scene sound holds.2⟩
  next past number scene sound holds :=
    ⟨invariant.next past number scene sound holds.1, other.next past number scene sound holds.2⟩

/-! ### Runs -/

/-- A turn that fails, after those of the past. -/
structure Fails (network : Network ρ σ) (start : State ρ σ) (past : List (Turn ρ σ))
    (turn : Turn ρ σ) (after : State ρ σ) (cause : FailureCause) : Prop where
  unfolds : network.Unfolds start past turn.tick (.turns turn.index) turn.before
  inside : turn.index < turn.before.nodes.size
  failed : network.turn turn.tick turn.before turn.index =
    .error (.failure after turn.index cause)

/-- How a run of at most `maxTicks` ticks ends: its ticks are used up, it is over after a tick, or a
turn fails. -/
inductive Ends (network : Network ρ σ) (maxTicks : Nat) (start : State ρ σ) :
    RunResult → State ρ σ → Prop where
  | spent {final : State ρ σ} :
      network.Unfolds start (network.history maxTicks start) maxTicks (.turns 0) final →
      Ends network maxTicks start (final.report .completed maxTicks) final
  | quit {number : Nat} {before : State ρ σ} : number < maxTicks →
      network.Unfolds start (network.history maxTicks start) number .delivered before →
      (before.countTick.allTerminated || network.quiescent before.countTick) = true →
      Ends network maxTicks start (before.countTick.report .completed (number + 1)) before.countTick
  | failed {past : List (Turn ρ σ)} {turn : Turn ρ σ} {final : State ρ σ} {cause : FailureCause} :
      turn.tick < maxTicks → network.history maxTicks start = past ++ [turn] →
      network.Fails start past turn final cause →
      Ends network maxTicks start (final.report (.failed turn.tick turn.index cause) turn.tick) final

/-- A failure is blamed on the node whose turn it is. -/
theorem plainTurn_node {tick index : Nat} {scene : Scene ρ σ} {failure : Failure ρ σ}
    (failed : network.plainTurn tick scene index = .error failure) : failure.node = index := by
  cases found : scene.stations[index]? with
  | none =>
    rw [plainTurn, found] at failed
    cases failed
  | some station => exact (plainTurn_cause found failed).1

private theorem turns_unfold (valid : network.table.Valid) (sound : start.Sound network [])
    {count : Nat} (total : taken + count = network.config.nodeCount)
    (unfolds : network.Unfolds start past number (.turns taken) state) :
    let turns := network.turnsOf number (List.range' taken count) state
    (∃ after, (List.range' taken count).foldlM (network.turn number) state = .ok after ∧
      network.Unfolds start (past ++ turns) number (.turns after.nodes.size) after) ∨
    ∃ done turn after cause, (List.range' taken count).foldlM (network.turn number) state =
        .error (.failure after turn.index cause) ∧
      turn.tick = number ∧ turns = done ++ [turn] ∧
      network.Fails start (past ++ done) turn after cause := by
  obtain ⟨scene, depicts⟩ := unfolds.occurs.depicts valid sound
  have size := depicts.sound.count
  induction count generalizing past taken state scene with
  | zero =>
    refine .inl ⟨state, rfl, ?_⟩
    rw [size, ← total]
    simpa [turnsOf] using unfolds
  | succ count ih =>
    have inside : taken < state.nodes.size := by omega
    have refines := turn_refines number valid depicts (size ▸ inside)
    rw [List.range'_succ, List.foldlM_cons, turnsOf]
    cases ran : network.turn number state taken with
    | ok middle =>
      have onwards := unfolds.turn inside ran
      rw [ran] at refines
      obtain ⟨shown, -, depicts⟩ := refines.of_ok
      rcases ih (by omega) onwards shown depicts depicts.sound.count with
        ⟨after, rest, ended⟩ | ⟨done, turn, after, cause, rest, tick, turns, fails⟩
      · rw [List.append_assoc] at ended
        exact .inl ⟨after, rest, ended⟩
      · rw [List.append_assoc] at fails
        exact .inr ⟨⟨number, taken, state⟩ :: done, turn, after, cause, rest, tick,
          congrArg (⟨number, taken, state⟩ :: ·) turns, fails⟩
    | error stop =>
      rw [ran] at refines
      cases stop with
      | breach breach => exact refines.not_breach.elim
      | failure after node cause =>
        obtain ⟨failure, known, -, same, -⟩ := refines.of_failure
        cases same.trans (plainTurn_node known)
        exact .inr ⟨[], ⟨number, taken, state⟩, after, cause, rfl, rfl, rfl,
          by rwa [List.append_nil], inside, ran⟩

/-- A tick takes the turns of all nodes and delivers what is due, or one of its turns fails. -/
theorem Unfolds.ticks (valid : network.table.Valid) (sound : start.Sound network [])
    (unfolds : network.Unfolds start past number (.turns 0) state) :
    let turns := network.turnsOf number (List.range state.nodes.size) state
    (∃ before, network.tick number state = .ok before.countTick ∧
      network.Unfolds start (past ++ turns) number .delivered before) ∨
    ∃ done turn after cause,
      network.tick number state = .error (.failure after turn.index cause) ∧
      turn.tick = number ∧ turns = done ++ [turn] ∧
      network.Fails start (past ++ done) turn after cause := by
  obtain ⟨scene, depicts⟩ := unfolds.occurs.depicts valid sound
  have every : List.range state.nodes.size = List.range' 0 network.config.nodeCount := by
    rw [depicts.sound.count, List.range_eq_range']
  rw [tick, Network.turns, every]
  rcases turns_unfold valid sound (Nat.zero_add _) unfolds with
    ⟨after, ran, reached⟩ | ⟨done, turn, after, cause, ran, fails⟩
  · obtain ⟨shown, depicts⟩ := reached.occurs.depicts valid sound
    obtain ⟨before, delivered, -⟩ := deliverDue_depicts depicts (number + 1)
    refine .inl ⟨before, ?_, reached.deliver delivered⟩
    simp only [ran, delivered, guarded_ok, bind, Except.bind, pure, Except.pure]
  · refine .inr ⟨done, turn, after, cause, ?_, fails⟩
    simp only [ran, bind, Except.bind]

theorem Unfolds.tick (valid : network.table.Valid) (sound : start.Sound network [])
    (unfolds : network.Unfolds start past number (.turns 0) state)
    (ran : network.tick number state = .ok after)
    (lasting : (after.allTerminated || network.quiescent after) = false) :
    network.Unfolds start (past ++ network.turnsOf number (List.range state.nodes.size) state)
      (number + 1) (.turns 0) after := by
  rcases unfolds.ticks valid sound with ⟨before, ticked, due⟩ | ⟨_, _, _, _, ticked, -⟩
  · rw [ticked] at ran
    cases ran
    exact due.next lasting
  · rw [ticked] at ran
    cases ran

private theorem advance_ends (valid : network.table.Valid) (sound : start.Sound network [])
    {maxTicks remaining : Nat} (ticks : number + remaining = maxTicks)
    (whole : network.history maxTicks start = past ++ network.turnsFrom remaining number state)
    (unfolds : network.Unfolds start past number (.turns 0) state) :
    ∃ result final, network.advance remaining number state = .ok (result, final) ∧
      network.Ends maxTicks start result final := by
  induction remaining generalizing past number state with
  | zero =>
    refine ⟨_, state, rfl, ?_⟩
    rw [turnsFrom, List.append_nil] at whole
    rw [← ticks]
    exact .spent (by rwa [ticks, whole, ← ticks])
  | succ remaining ih =>
    rw [turnsFrom] at whole
    rw [advance]
    rcases unfolds.ticks valid sound with
      ⟨before, ticked, due⟩ | ⟨done, turn, after, cause, ticked, rfl, turns, fails⟩
    · rw [ticked] at whole ⊢
      cases ended : before.countTick.allTerminated || network.quiescent before.countTick with
      | true =>
        simp only [ended, if_true, List.append_nil] at whole ⊢
        rw [← whole] at due
        exact ⟨_, _, rfl, .quit (by omega) due ended⟩
      | false =>
        simp only [ended, Bool.false_eq_true, if_false, ← List.append_assoc] at whole ⊢
        exact ih (by omega) whole (due.next ended)
    · rw [ticked, turns] at whole
      rw [ticked]
      simp only [List.append_nil, ← List.append_assoc] at whole
      exact ⟨_, _, rfl, .failed (by omega) whole fails⟩

/-- A run takes the turns of its history, and ends in one of these ways. -/
theorem run_ends (valid : network.table.Valid) (sound : start.Sound network []) (maxTicks : Nat) :
    ∃ result final, network.run maxTicks start = .ok (result, final) ∧
      network.Ends maxTicks start result final := by
  obtain ⟨first, begun, -⟩ := begin_depicts valid sound
  rw [run, begun]
  refine advance_ends valid sound (Nat.zero_add _) ?_ (.first begun)
  rw [history, begun, List.nil_append]

/-- Every turn of the past was taken at a moment of the run. -/
theorem Unfolds.occurs_of_mem (unfolds : network.Unfolds start past number stage state)
    {turn : Turn ρ σ} (member : turn ∈ past) :
    network.Occurs start turn.tick (.turns turn.index) turn.before ∧
      turn.index < turn.before.nodes.size := by
  induction unfolds with
  | first => cases member
  | turn unfolds inside _ ih | stop unfolds inside _ ih =>
    rcases List.mem_append.mp member with earlier | now
    · exact ih earlier
    · cases List.mem_singleton.mp now
      exact ⟨unfolds.occurs, inside⟩
  | deliver _ _ ih | next _ _ ih => exact ih member

theorem Ends.occurs_of_mem {maxTicks : Nat} {result : RunResult}
    (ends : network.Ends maxTicks start result final) {turn : Turn ρ σ}
    (member : turn ∈ network.history maxTicks start) :
    network.Occurs start turn.tick (.turns turn.index) turn.before ∧
      turn.index < turn.before.nodes.size := by
  cases ends with
  | spent unfolds | quit _ unfolds _ => exact unfolds.occurs_of_mem member
  | failed _ whole fails =>
    rw [whole] at member
    exact (fails.unfolds.stop fails.inside fails.failed).occurs_of_mem member

/-- An invariant holds of the scene that a run ends in, with all its turns. -/
theorem Ends.shows {Inv : List (Turn ρ σ) → Nat → Nat → Scene ρ σ → Prop}
    (invariant : network.Invariant start Inv) (valid : network.table.Valid)
    (sound : start.Sound network []) {maxTicks : Nat} {result : RunResult}
    (ends : network.Ends maxTicks start result final) :
    ∃ scene, Depicts network [] final scene ∧
      ((∃ ticks ≤ maxTicks, result = scene.report .completed ticks ∧
          Inv (network.history maxTicks start) ticks 0 scene) ∨
        ∃ past turn cause, turn.tick < maxTicks ∧
          network.history maxTicks start = past ++ [turn] ∧
          network.Fails start past turn final cause ∧
          result = scene.report (.failed turn.tick turn.index cause) turn.tick ∧
          Inv (network.history maxTicks start) turn.tick (turn.index + 1) scene) := by
  cases ends with
  | spent unfolds =>
    obtain ⟨scene, taken, depicts, -, rfl, holds⟩ := invariant.shows valid sound unfolds
    exact ⟨scene, depicts, .inl ⟨maxTicks, Nat.le_refl _, (depicts.report_eq _ _).symm, holds⟩⟩
  | @quit number before early unfolds _ =>
    obtain ⟨scene, taken, depicts, soundScene, rfl, holds⟩ := invariant.shows valid sound unfolds
    have counted := depicts.countTick
    exact ⟨_, counted, .inl ⟨number + 1, early, (counted.report_eq _ _).symm,
      invariant.next _ _ scene soundScene holds⟩⟩
  | @failed past turn final cause early whole fails =>
    obtain ⟨scene, taken, depicts, soundScene, rfl, holds⟩ :=
      invariant.shows valid sound fails.unfolds
    have inside : turn.index < network.config.nodeCount := depicts.sound.count ▸ fails.inside
    have left := invariant.turn past turn scene depicts soundScene inside holds
    have refines := turn_refines turn.tick valid depicts inside
    rw [fails.failed] at refines
    obtain ⟨failure, known, shown, -⟩ := refines.of_failure
    rw [known, ← whole] at left
    exact ⟨failure.scene, shown, .inr ⟨past, turn, cause, early, whole, fails,
      (shown.report_eq _ _).symm, left⟩⟩

/-! ### The places of turns -/

/-- Where a turn takes place: its tick and its node. -/
def Turn.place (turn : Turn ρ σ) : Nat × Nat :=
  (turn.tick, turn.index)

/-- The places of the turns of whole ticks, for so many nodes. -/
def fullTicks (count ticks : Nat) : List (Nat × Nat) :=
  (List.range ticks).flatMap fun tick => (List.range count).map (tick, ·)

/-- Every node has had its turn in each tick before one, and in that one so many have had theirs. -/
def Placed (count number taken : Nat) (past : List (Turn ρ σ)) : Prop :=
  past.map Turn.place = fullTicks count number ++ (List.range taken).map (number, ·)

namespace Placed

variable {count : Nat}

theorem turn {turn : Turn ρ σ} (placed : Placed count turn.tick turn.index past) :
    Placed count turn.tick (turn.index + 1) (past ++ [turn]) := by
  rw [Placed, List.map_append, placed, List.range_succ, List.map_append, List.append_assoc]
  rfl

theorem next (placed : Placed count number count past) : Placed count (number + 1) 0 past := by
  rw [Placed, placed, fullTicks, fullTicks, List.range_succ, List.flatMap_append]
  simp

theorem mem_iff (placed : Placed count number taken past) (tick index : Nat) :
    (∃ turn ∈ past, turn.tick = tick ∧ turn.index = index) ↔
      tick < number ∧ index < count ∨ tick = number ∧ index < taken := by
  have listed : (∃ turn ∈ past, turn.place = (tick, index)) ↔
      (tick, index) ∈ fullTicks count number ++ (List.range taken).map (number, ·) := by
    rw [← placed, List.mem_map]
  simp only [Turn.place, Prod.mk.injEq] at listed
  rw [listed, List.mem_append, List.mem_map, fullTicks, List.mem_flatMap]
  simp only [List.mem_map, List.mem_range, Prod.mk.injEq]
  constructor
  · rintro (⟨earlier, before, other, inside, rfl, rfl⟩ | ⟨other, inside, rfl, rfl⟩)
    · exact .inl ⟨before, inside⟩
    · exact .inr ⟨rfl, inside⟩
  · rintro (⟨before, inside⟩ | ⟨rfl, inside⟩)
    · exact .inl ⟨tick, before, index, inside, rfl, rfl⟩
    · exact .inr ⟨index, inside, rfl, rfl⟩

/-- A node has one turn in each tick. -/
theorem countP (placed : Placed count number taken past) {index : Nat} (inside : index < count) :
    past.countP (·.index == index) = number + if index < taken then 1 else 0 := by
  have row : ∀ tick width : Nat, ((List.range width).map (tick, ·)).countP (·.2 == index) =
      if index < width then 1 else 0 := by
    intro tick width
    rw [List.countP_map]
    exact List.count_range
  have full : (fullTicks count number).countP (·.2 == index) = number := by
    clear placed
    induction number with
    | zero => rfl
    | succ number ih =>
      rw [fullTicks, List.range_succ, List.flatMap_append, List.flatMap_singleton,
        List.countP_append, row, if_pos inside]
      exact congrArg (· + 1) ih
  have listed : past.countP (·.index == index) =
      (past.map Turn.place).countP (·.2 == index) := by
    rw [List.countP_map]
    rfl
  rw [listed, placed, List.countP_append, full, row]

/-- A node has one turn in each tick from one of its own on. -/
theorem countP_since {turn : Turn ρ σ} {later : List (Turn ρ σ)}
    (before : Placed count turn.tick turn.index past) (inside : turn.index < count)
    (placed : Placed count number taken (past ++ turn :: later)) :
    later.countP (·.index == turn.index) + (turn.tick + 1) =
      number + if turn.index < taken then 1 else 0 := by
  have earlier := before.countP inside
  have whole := placed.countP inside
  rw [List.countP_append, List.countP_cons, earlier, beq_self_eq_true] at whole
  simp only [Nat.lt_irrefl, if_false, if_true] at whole
  omega

end Placed

/-- The turns of a run take place tick by tick, in the order of the nodes. -/
theorem placed_invariant (network : Network ρ σ) (start : State ρ σ) :
    network.Invariant start fun past number taken _ =>
      Placed network.config.nodeCount number taken past where
  begins := rfl
  turn _ _ _ _ _ _ placed := placed.turn
  deliver _ _ _ _ placed := placed
  next _ _ _ _ placed := placed.next

end Lockstep.Network
