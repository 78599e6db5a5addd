import Lockstep.Proofs.Network.Built
import Lockstep.Proofs.Network.Moments
import Lockstep.Scenario.Runner

/-!
The single runs that scenarios are made of.

A run is refused exactly if the settings are, and otherwise its report is that of the network without
its machinery (`Runner.simulate_built`). So every report tells how many nodes there were, and how many
buffers if there were not enough (`Runner.simulate_told`).
-/
namespace Lockstep.Runner

variable {runner : Runner} {config : NetworkConfig} {program : Except Breach Bytecode}
  {bytecode : Bytecode} {router : Router} {seed : UInt64} {report : RunResult}

theorem simulate_built (runner : Runner) {network : Network Seeded Unit}
    (built : Network.build .standard config (fun _ => bytecode.program) router Seeded.source =
      .ok network) (seed : UInt64) :
    runner.simulate config (.ok bytecode) router seed =
      .ok (.ok (network.plainRun runner.maxTicks (Seeded.new seed) ()).1) := by
  have valid : network.table.Valid := by
    obtain ⟨-, valid, rfl⟩ := Network.build_eq_ok.mp built
    exact valid
  have resting : network.Resting (network.initial (Seeded.new seed) ()) := .initial _ ()
  obtain ⟨final, ran, -⟩ := Network.run_depicts valid (resting.sound valid) runner.maxTicks
  simp only [simulate, built, ran, bind, Except.bind, pure, Except.pure]
  rfl

/-- Settings that are refused are not run. -/
theorem exists_refused (runner : Runner) (refused : ¬ config.Valid) (bytecode : Bytecode)
    (router : Router) (seed : UInt64) :
    ∃ error, runner.simulate config (.ok bytecode) router seed = .ok (.error error) := by
  cases built : Network.build .standard config (fun _ => bytecode.program (σ := Unit)) router
      Seeded.source with
  | error error =>
    refine ⟨error, ?_⟩
    simp only [simulate, built, bind, Except.bind, pure, Except.pure]
  | ok network => exact absurd (Network.build_eq_ok.mp built).1 refused

/-- A run comes to a report or is refused, but does not break off. -/
theorem exists_outcome (runner : Runner) (config : NetworkConfig) (bytecode : Bytecode)
    (router : Router) (seed : UInt64) :
    ∃ outcome, runner.simulate config (.ok bytecode) router seed = .ok outcome := by
  cases built : Network.build .standard config (fun _ => bytecode.program (σ := Unit)) router
      Seeded.source with
  | error error =>
    refine ⟨.error error, ?_⟩
    simp only [simulate, built, bind, Except.bind, pure, Except.pure]
  | ok network => exact ⟨_, runner.simulate_built built seed⟩

/-- A report is that of a network that was accepted. -/
theorem simulate_eq_ok
    (simulated : runner.simulate config program router seed = .ok (.ok report)) :
    ∃ (bytecode : Bytecode) (network : Network Seeded Unit), program = .ok bytecode ∧
      Network.build .standard config (fun _ => bytecode.program) router Seeded.source =
        .ok network ∧
      report = (network.plainRun runner.maxTicks (Seeded.new seed) ()).1 := by
  cases program with
  | error breach => cases simulated
  | ok bytecode =>
    cases built : Network.build .standard config (fun _ => bytecode.program (σ := Unit)) router
        Seeded.source with
    | error error =>
      simp only [simulate, built, bind, Except.bind, pure, Except.pure] at simulated
      cases simulated
    | ok network =>
      cases (runner.simulate_built built seed).symm.trans simulated
      exact ⟨bytecode, network, rfl, built, rfl⟩

theorem settings_valid
    (simulated : runner.simulate config program router seed = .ok (.ok report)) : config.Valid := by
  obtain ⟨bytecode, network, -, built, -⟩ := simulate_eq_ok simulated
  exact (Network.build_eq_ok.mp built).1

/-- A report tells the settings of its run. -/
theorem simulate_told (simulated : runner.simulate config program router seed = .ok (.ok report)) :
    report.nodes.length = config.nodeCount ∧
      ∀ capacity, report.failureCause = some (.resourceExhausted capacity) →
        capacity = config.capacity := by
  obtain ⟨bytecode, network, -, built, rfl⟩ := simulate_eq_ok simulated
  obtain ⟨-, valid, rfl⟩ := Network.build_eq_ok.mp built
  exact Network.plainRun_told valid runner.maxTicks (Seeded.new seed) ()

/-- If there is no tick to run, a report does not depend on the number of buffers. -/
theorem simulate_zero {capacity : Nat}
    (simulated : runner.simulate config program router seed = .ok (.ok report))
    (done : runner.maxTicks = 0) (buffers : 0 < capacity) :
    runner.simulate { config with capacity } program router seed = .ok (.ok report) := by
  obtain ⟨bytecode, network, rfl, built, rfl⟩ := simulate_eq_ok simulated
  obtain ⟨settings, valid, rfl⟩ := Network.build_eq_ok.mp built
  have accepted : NetworkConfig.Valid { config with capacity } :=
    ⟨settings.nodes, settings.positive, settings.ordered, buffers⟩
  rw [runner.simulate_built (Network.build_eq_ok.mpr ⟨accepted, valid, rfl⟩) seed, done]
  rfl

end Lockstep.Runner
