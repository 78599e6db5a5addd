import Lockstep.Proofs.Network.Likeness
import Lockstep.Proofs.Network.Unfolding
import Lockstep.Scenario.Runner

/-!
Networks with one delay.

Where there is but one delay to draw, a seeded source answers it without reading anything
(`Seeded.draw_narrow`). So no part of a run changes the random state (`Steady.kept`), and runs that
differ in it are alike (`Steady.likeness`): neither the seed nor what was run before shows in a
report.
-/
namespace Lockstep

/-- Where there is no choice, a seeded source reads nothing. -/
theorem Seeded.draw_narrow {min max : Nat} (narrow : min = max) (generator : Seeded) :
    Seeded.source.draw generator min max = (min, generator) := by
  change uniform generator min max = _
  rw [uniform, if_pos (Nat.le_of_eq narrow.symm)]

namespace Network

variable {ρ σ : Type} {network : Network ρ σ} {first start state final : State ρ σ}

/-- There is but one delay to draw, and drawing it leaves the random state as it is. -/
def Steady (network : Network ρ σ) : Prop :=
  ∀ random, network.source.draw random network.config.minDelay network.config.maxDelay =
    (network.config.minDelay, random)

/-- The states that runs have led to, one after another, from a first one. -/
inductive Reruns (network : Network ρ σ) (first : State ρ σ) : State ρ σ → Prop where
  | none : Reruns network first first
  | again {start final : State ρ σ} {maxTicks : Nat} {result : RunResult} :
      Reruns network first start → network.run maxTicks start = .ok (result, final) →
      Reruns network first final

theorem Reruns.resting (reruns : network.Reruns first start) (resting : network.Resting first) :
    network.Resting start := by
  induction reruns with
  | none => exact resting
  | again _ ran ih => exact ih.rerun ran

namespace Steady

theorem address (steady : network.Steady) (tick sender : Nat) (payload : Cells)
    (destinations : List Nat) (random : ρ) :
    (network.address tick sender payload destinations random).2 = random := by
  induction destinations with
  | nil => rfl
  | cons destination rest ih =>
    rw [Network.address, steady]
    exact ih

theorem sentIn (steady : network.Steady) (tick : Nat) (scene : Scene ρ σ) (index : Nat) :
    (network.sentIn tick scene index).2 = scene.random := by
  unfold Network.sentIn
  split
  · rfl
  · dsimp only
    split
    · rfl
    · exact steady.address _ _ _ _ _

/-- No part of a run changes the random state. -/
theorem invariant (steady : network.Steady) (start : State ρ σ) :
    network.Invariant start fun _ _ _ scene => scene.random = start.random where
  begins := rfl
  turn := by
    intro past turn scene depicts sound inside same
    obtain ⟨station, found⟩ := sound.found inside
    obtain ⟨-, -, random, -⟩ := leftBy_plainTurn network turn.tick found
    rw [random, steady.sentIn]
    exact same
  deliver := by
    intro past number scene _ same
    obtain ⟨-, -, random, -⟩ := deliverDue_rest (number + 1) scene
    exact random.trans same
  next := by
    intro past number scene _ same
    obtain ⟨-, -, -, random, -⟩ := countTick_rest scene
    exact random.trans same

/-- At every moment of a run the random state is the one it started with. -/
theorem kept (steady : network.Steady) (valid : network.table.Valid) (sound : start.Sound network [])
    {number : Nat} {stage : Stage} (occurs : network.Occurs start number stage state) :
    state.random = start.random := by
  obtain ⟨past, unfolds⟩ := occurs.unfolds
  obtain ⟨scene, taken, depicts, -, -, same⟩ := (steady.invariant start).shows valid sound unfolds
  rw [← depicts.random]
  exact same

theorem run_kept (steady : network.Steady) (valid : network.table.Valid)
    (sound : start.Sound network []) {maxTicks : Nat} {result : RunResult}
    (ran : network.run maxTicks start = .ok (result, final)) : final.random = start.random := by
  obtain ⟨_, _, known, ends⟩ := run_ends valid sound maxTicks
  rw [ran] at known
  cases known
  obtain ⟨scene, depicts, ⟨_, _, _, same⟩ | ⟨_, _, _, _, _, _, _, same⟩⟩ :=
    ends.shows (steady.invariant start) valid sound
  · exact depicts.random.symm.trans same
  · exact depicts.random.symm.trans same

theorem reruns_kept (steady : network.Steady) (valid : network.table.Valid)
    (resting : network.Resting first) (reruns : network.Reruns first start) :
    start.random = first.random := by
  induction reruns with
  | none => rfl
  | again earlier ran ih =>
    exact (steady.run_kept valid ((earlier.resting resting).sound valid) ran).trans ih

/-- No run can tell which random state it starts with. -/
def likeness (steady : network.Steady) (views : ∀ index, ∃ act, network.program index = .ofView act)
    (random : ρ) (shared : σ) : network.Likeness where
  random _ := random
  shared _ := shared
  draws state := by rw [steady, steady]
  steps := (Likeness.ofViews views shared).steps

/-- Runs that start with other random states, after whatever runs, come to the same. -/
theorem run_same (steady : network.Steady)
    (views : ∀ index, ∃ act, network.program index = .ofView act)
    (valid : network.table.Valid) {other : State ρ σ} (resting : network.Resting start)
    (otherResting : network.Resting other) (maxTicks : Nat) :
    ∃ result final otherFinal,
      network.run maxTicks start = .ok (result, final) ∧
        network.run maxTicks other = .ok (result, otherFinal) := by
  obtain ⟨result, final, otherFinal, ran, otherRan, -⟩ :=
    (steady.likeness views other.random other.shared).run valid (resting.sound valid)
      (otherResting.sound valid) rfl rfl maxTicks
  exact ⟨result, final, otherFinal, ran, otherRan⟩

end Steady

theorem steady_of_build {table : SymbolTable} {config : NetworkConfig} {program : Nat → Program σ}
    {router : Router} {network : Network Seeded σ}
    (built : Network.build table config program router Seeded.source = .ok network)
    (narrow : config.minDelay = config.maxDelay) : network.Steady := by
  obtain ⟨-, -, rfl⟩ := build_eq_ok.mp built
  exact Seeded.draw_narrow narrow

end Network

namespace Runner

/-- A run on a network with one delay comes to the same for all seeds. -/
theorem exists_simulated (runner : Runner) (config : NetworkConfig)
    (narrow : config.minDelay = config.maxDelay) (bytecode : Bytecode) (router : Router) :
    ∃ outcome, ∀ seed, runner.simulate config (.ok bytecode) router seed = .ok outcome := by
  cases built : Network.build .standard config (fun _ => bytecode.program (σ := Unit)) router
      Seeded.source with
  | error error =>
    refine ⟨.error error, fun seed => ?_⟩
    simp only [simulate, built, bind, Except.bind, pure, Except.pure]
  | ok network =>
    obtain ⟨-, valid, same⟩ := Network.build_eq_ok.mp built
    have views : ∀ index, ∃ act, network.program index = .ofView act := by
      rw [same]
      exact fun _ => ⟨_, rfl⟩
    have table : network.table.Valid := by
      rw [same]
      exact valid
    have any : ∀ seed, network.Resting (network.initial (Seeded.new seed) ()) :=
      fun seed => .initial _ ()
    obtain ⟨result, _, _, ran, -⟩ := (Network.steady_of_build built narrow).run_same views table
      (any 0) (any 0) runner.maxTicks
    refine ⟨.ok result, fun seed => ?_⟩
    obtain ⟨_, _, final, known, other⟩ := (Network.steady_of_build built narrow).run_same views table
      (any 0) (any seed) runner.maxTicks
    rw [ran] at known
    cases known
    simp only [simulate, built, other, bind, Except.bind, pure, Except.pure]

/-- The scenario with one delay judges the run with its own seed. -/
theorem exists_fixedDelay (runner : Runner) : ∃ outcome,
    runner.simulate { runner.config with minDelay := runner.config.maxDelay }
      (Bytecode.leaderElection .standard) Router.ring runner.seed = .ok outcome ∧
    runner.run .fixedDelay = .ok (match outcome with
      | .error error => ⟨.fixedDelay, runner.seed, none, some (.rejected error)⟩
      | .ok result => ⟨.fixedDelay, runner.seed, some result, checkConverged result⟩) := by
  obtain ⟨bytecode, made⟩ : ∃ bytecode, Bytecode.leaderElection .standard = .ok bytecode :=
    ⟨_, rfl⟩
  obtain ⟨outcome, simulated⟩ := runner.exists_simulated
    { runner.config with minDelay := runner.config.maxDelay } rfl bytecode Router.ring
  refine ⟨outcome, made ▸ simulated runner.seed, ?_⟩
  cases outcome with
  | error error =>
    simp only [run, verdict, fixedDelay, made, simulated, bind, Except.bind, pure, Except.pure]
  | ok result =>
    simp only [run, verdict, fixedDelay, made, simulated, if_true, bind, Except.bind, pure,
      Except.pure]

/-- An election passes, or it failed or left nodes with other numbers. -/
theorem checkConverged_cases (result : RunResult) :
    checkConverged result = none ∨
      (∃ cause, checkConverged result = some (.runFailed cause)) ∨
      ∃ ids leader, checkConverged result = some (.notConverged ids leader) := by
  unfold checkConverged
  split
  · exact .inr (.inl ⟨_, rfl⟩)
  · dsimp only
    split
    · exact .inl rfl
    · exact .inr (.inr ⟨_, _, rfl⟩)

/-- The scenario with one delay has no two runs that differ. -/
theorem fixedDelay_not_diverged (runner : Runner) :
    ∃ result, runner.run .fixedDelay = .ok result ∧ result.shortfall ≠ some .diverged := by
  obtain ⟨outcome, -, ran⟩ := runner.exists_fixedDelay
  refine ⟨_, ran, ?_⟩
  cases outcome with
  | error error => exact nofun
  | ok result =>
    dsimp only
    rcases checkConverged_cases result with same | ⟨cause, same⟩ | ⟨ids, leader, same⟩ <;>
      rw [same] <;> exact nofun

end Runner

/-- Where all messages travel equally long, every run of so many ticks reports the same, whatever the
seeds and the earlier runs, and the generator is never advanced: it is that of the seed at every
moment. So the scenario that compares two seeds cannot find them to differ. -/
theorem Network.narrow_window_seedless {σ : Type} {table : SymbolTable} {config : NetworkConfig}
    {program : Nat → Program σ} {router : Router} {network : Network Seeded σ}
    (built : Network.build table config program router Seeded.source = .ok network)
    (narrow : config.minDelay = config.maxDelay)
    (views : ∀ index, ∃ act, program index = .ofView act) :
    (∀ (seed otherSeed : UInt64) (shared otherShared : σ) (start other : State Seeded σ),
      network.Reruns (network.initial (Seeded.new seed) shared) start →
      network.Reruns (network.initial (Seeded.new otherSeed) otherShared) other →
      ∀ maxTicks, ∃ result final otherFinal,
        network.run maxTicks start = .ok (result, final) ∧
        network.run maxTicks other = .ok (result, otherFinal) ∧
        start.random = Seeded.new seed ∧ final.random = Seeded.new seed ∧
        ∀ number stage state, network.Occurs start number stage state →
          state.random = Seeded.new seed) ∧
    ∀ runner : Runner, ∃ result, runner.run .fixedDelay = .ok result ∧
      result.shortfall ≠ some .diverged := by
  refine ⟨?_, Runner.fixedDelay_not_diverged⟩
  intro seed otherSeed shared otherShared start other reruns otherReruns maxTicks
  have steady := steady_of_build built narrow
  obtain ⟨-, valid, rfl⟩ := build_eq_ok.mp built
  have resting := reruns.resting (.initial (Seeded.new seed) shared)
  have otherResting := otherReruns.resting (.initial (Seeded.new otherSeed) otherShared)
  have random : start.random = Seeded.new seed :=
    steady.reruns_kept valid (.initial (Seeded.new seed) shared) reruns
  obtain ⟨result, final, otherFinal, ran, otherRan⟩ :=
    steady.run_same views valid resting otherResting maxTicks
  refine ⟨result, final, otherFinal, ran, otherRan, random, ?_, fun number stage state occurs => ?_⟩
  · rw [steady.run_kept valid (resting.sound valid) ran, random]
  · rw [steady.kept valid (resting.sound valid) occurs, random]

/-- Four nodes flood each other with messages that all take two ticks, until there are no buffers
left. A run after that reports what the first run with another seed does. -/
theorem Network.narrow_window_seedless_exhausted :
    ∃ (network : Network Seeded Unit) (failed result : RunResult)
      (used final otherFinal : State Seeded Unit),
      Network.build .standard { nodeCount := 4, capacity := 25, minDelay := 2, maxDelay := 2 }
          (fun _ => .ofView fun _ => .requestSend fun _ => .done .continue) Router.broadcast
          Seeded.source = .ok network ∧
        network.run 9 (network.initial (Seeded.new 7) ()) = .ok (failed, used) ∧
        failed.outcome = .failed 2 0 (.resourceExhausted 25) ∧ used.schedule.inFlight = 13 ∧
        network.run 5 used = .ok (result, final) ∧
        network.run 5 (network.initial (Seeded.new 11) ()) = .ok (result, otherFinal) ∧
        used.random = Seeded.new 7 ∧ final.random = Seeded.new 7 ∧
        ∃ verdict, (Runner.new 7 4).run .fixedDelay = .ok verdict ∧
          verdict.shortfall ≠ some .diverged := by
  let network : Network Seeded Unit :=
    ⟨.standard, { nodeCount := 4, capacity := 25, minDelay := 2, maxDelay := 2 },
      fun _ => .ofView fun _ => .requestSend fun _ => .done .continue, Router.broadcast,
      Seeded.source⟩
  have built : Network.build network.table network.config network.program network.router
      Seeded.source = .ok network := rfl
  have ended : (network.run 9 (network.initial (Seeded.new 7) ())).toOption.map
      (fun ran => (ran.1.outcome, ran.2.schedule.inFlight)) =
        some (.failed 2 0 (.resourceExhausted 25), 13) := by
    decide +kernel
  simp only [Option.map_eq_some_iff, toOption_eq_some_iff, Prod.mk.injEq] at ended
  obtain ⟨⟨failed, used⟩, ran, outcome, waiting⟩ := ended
  obtain ⟨same, scenario⟩ := narrow_window_seedless built rfl fun _ => ⟨_, rfl⟩
  obtain ⟨result, final, otherFinal, again, other, random, finalRandom, -⟩ :=
    same 7 11 () () used _ (.again .none ran) .none 5
  exact ⟨network, failed, result, used, final, otherFinal, built, ran, outcome, waiting, again, other,
    random, finalRandom, scenario (Runner.new 7 4)⟩

end Lockstep
