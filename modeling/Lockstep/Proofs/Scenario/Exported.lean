import Lockstep.Proofs.Network.Steady
import Lockstep.Proofs.Ring.Flood
import Lockstep.Proofs.Scenario.Simulated
import Lockstep.Scenario.Export

/-!
What an exported document says of the run it holds.

Two scenarios change the settings they are given: one takes two nodes at least and one buffer, the
other one delay. With the settings that were used, a document would describe its run in every scenario
(`Runner.run_used`). It holds the settings of the runner, which are those of the run in the other
four, and in these two if nothing had to be changed (`Runner.settings_eq_iff`). In the one with a pool
of one buffer the document is wrong otherwise, unless there is no tick to run
(`Runner.describes_cramped_iff`).
-/
namespace Lockstep

namespace Scenario

/-- The program of the nodes. -/
def program : Scenario → Except Breach Bytecode
  | .ringElection | .fixedDelay => Bytecode.leaderElection .standard
  | .broadcastElection => Bytecode.leaderElectionOnChange .standard
  | .silent => .ok Bytecode.silent
  | .poolExhaustion => Bytecode.flood .standard
  | .programFault => Bytecode.faultAt .standard Runner.faultTick

theorem exists_program (scenario : Scenario) : ∃ bytecode, scenario.program = .ok bytecode := by
  cases scenario <;> exact ⟨_, rfl⟩

/-- Where messages go. -/
def router : Scenario → Router
  | .broadcastElection | .silent => Router.broadcast
  | .ringElection | .poolExhaustion | .programFault | .fixedDelay => Router.ring

end Scenario

/-- A document describes the run it holds: it tells how many nodes and buffers there were, and what it
says was run comes to the same report. -/
structure RunExport.Describes (document : RunExport) (scenario : Scenario) (report : RunResult) :
    Prop where
  held : document.result = some report
  nodes : report.nodes.length = document.config.nodeCount
  buffers : ∀ capacity, report.failureCause = some (.resourceExhausted capacity) →
    capacity = document.config.capacity
  again : Runner.simulate ⟨document.seed, document.config, document.maxTicks⟩ document.config
    scenario.program scenario.router document.seed = .ok (.ok report)

namespace Runner

variable {runner : Runner} {scenario : Scenario} {report : RunResult} {result : ScenarioResult}

/-- The settings that a scenario uses. -/
def settings (runner : Runner) : Scenario → NetworkConfig
  | .poolExhaustion => runner.cramped
  | .fixedDelay => { runner.config with minDelay := runner.config.maxDelay }
  | .ringElection | .broadcastElection | .silent | .programFault => runner.config

/-- A scenario changes no settings if they are what it would make of them. -/
theorem settings_eq_iff : runner.settings scenario = runner.config ↔
    (scenario = .poolExhaustion → 2 ≤ runner.config.nodeCount ∧ runner.config.capacity = 1) ∧
      (scenario = .fixedDelay → runner.config.minDelay = runner.config.maxDelay) := by
  cases scenario with
  | poolExhaustion =>
    simp only [forall_const, reduceCtorEq, false_imp_iff, and_true]
    constructor
    · intro same
      have count : max runner.config.nodeCount 2 = runner.config.nodeCount :=
        congrArg NetworkConfig.nodeCount same
      have buffers : 1 = runner.config.capacity := congrArg NetworkConfig.capacity same
      omega
    · rintro ⟨several, one⟩
      rw [settings, cramped, Nat.max_eq_left several, ← one]
  | fixedDelay =>
    simp only [forall_const, reduceCtorEq, false_imp_iff, true_and]
    constructor
    · intro same
      exact (congrArg NetworkConfig.minDelay same).symm
    · intro narrow
      exact congrArg (fun delay => { runner.config with minDelay := delay }) narrow.symm
  | ringElection | broadcastElection | silent | programFault => simp [settings]

/-- All scenarios but one are a single run that is judged. -/
theorem verdict_judged (runner : Runner) (single : scenario ≠ .fixedDelay) :
    ∃ check, runner.verdict scenario = (runner.simulate (runner.settings scenario)
      scenario.program scenario.router runner.seed).map (judge check) := by
  cases scenario with
  | fixedDelay => exact absurd rfl single
  | ringElection | broadcastElection | silent | poolExhaustion | programFault => exact ⟨_, rfl⟩

/-- Every scenario comes to a result. -/
theorem exists_run (runner : Runner) (scenario : Scenario) :
    ∃ result, runner.run scenario = .ok result := by
  by_cases single : scenario = .fixedDelay
  · subst single
    obtain ⟨outcome, -, known⟩ := runner.exists_fixedDelay
    exact ⟨_, known⟩
  · obtain ⟨check, judged⟩ := runner.verdict_judged single
    obtain ⟨bytecode, made⟩ := scenario.exists_program
    obtain ⟨outcome, simulated⟩ :=
      runner.exists_outcome (runner.settings scenario) bytecode scenario.router runner.seed
    rw [run, judged, made, simulated]
    cases outcome with
    | error error => exact ⟨_, rfl⟩
    | ok report => exact ⟨_, rfl⟩

/-- The run that a scenario reports is one with the settings that it uses. -/
theorem run_used (ran : runner.run scenario = .ok result) (reported : result.run = some report) :
    result.scenario = scenario ∧ result.seed = runner.seed ∧
      runner.simulate (runner.settings scenario) scenario.program scenario.router runner.seed =
        .ok (.ok report) := by
  by_cases single : scenario = .fixedDelay
  · subst single
    obtain ⟨outcome, simulated, known⟩ := runner.exists_fixedDelay
    cases known.symm.trans ran
    cases outcome with
    | error error => cases reported
    | ok first =>
      cases reported
      exact ⟨rfl, rfl, simulated⟩
  · obtain ⟨check, judged⟩ := runner.verdict_judged single
    rw [run, judged] at ran
    cases simulated : runner.simulate (runner.settings scenario) scenario.program scenario.router
        runner.seed with
    | error breach =>
      rw [simulated] at ran
      cases ran
    | ok outcome =>
      rw [simulated] at ran
      cases outcome with
      | error error =>
        cases ran
        cases reported
      | ok first =>
        cases ran
        cases reported
        exact ⟨rfl, rfl, rfl⟩

/-- A document with the settings of the run describes it. -/
theorem describes_used (ran : runner.run scenario = .ok result)
    (reported : result.run = some report) :
    ({ RunExport.ofScenario runner result with config := runner.settings scenario }).Describes
      scenario report := by
  obtain ⟨-, seed, simulated⟩ := run_used ran reported
  obtain ⟨nodes, buffers⟩ := simulate_told simulated
  refine ⟨reported, nodes, buffers, ?_⟩
  rw [← seed] at simulated
  exact simulated

/-- A document describes a run that used the settings of the runner. -/
theorem describes_of_same (ran : runner.run scenario = .ok result)
    (reported : result.run = some report) (same : runner.settings scenario = runner.config) :
    (RunExport.ofScenario runner result).Describes scenario report := by
  have described := describes_used ran reported
  rwa [same] at described

/-- The document of the scenario that tries a pool of one buffer describes its run for a runner that
has the nodes and the buffer anyway, and for one that has no tick to run. -/
theorem describes_cramped_iff (ran : runner.run .poolExhaustion = .ok result)
    (reported : result.run = some report) (bounded : runner.maxTicks ≤ lastTick) :
    (RunExport.ofScenario runner result).Describes .poolExhaustion report ↔
      2 ≤ runner.config.nodeCount ∧
        (runner.config.capacity = 1 ∨ runner.maxTicks = 0 ∧ 0 < runner.config.capacity) := by
  obtain ⟨-, seed, simulated⟩ := run_used ran reported
  have settings : runner.cramped.Valid := settings_valid simulated
  obtain ⟨nodes, -⟩ := simulate_told simulated
  constructor
  · intro described
    have count : max runner.config.nodeCount 2 = runner.config.nodeCount :=
      nodes.symm.trans described.nodes
    refine ⟨by omega, ?_⟩
    cases Nat.eq_zero_or_pos runner.maxTicks with
    | inl done => exact .inr ⟨done, (settings_valid described.again).capacity⟩
    | inr lasting =>
      -- the run has failed for want of a second buffer, and its report says so
      obtain ⟨other, known, failed⟩ :=
        runner.exists_exhausted settings.positive settings.ordered lasting bounded
      cases Except.ok.inj (known.symm.trans simulated)
      exact .inl (described.buffers 1 (by rw [RunResult.failureCause, failed])).symm
  · rintro ⟨several, one | ⟨done, buffers⟩⟩
    · exact describes_of_same ran reported (settings_eq_iff.mpr ⟨fun _ => ⟨several, one⟩, by simp⟩)
    · have again := simulate_zero simulated done buffers
      have same : { runner.settings .poolExhaustion with capacity := runner.config.capacity } =
          runner.config := by
        rw [Runner.settings, cramped, Nat.max_eq_left several]
      rw [same, ← seed] at again
      refine ⟨reported, ?_, fun capacity wanted => ?_, again⟩
      · exact (simulate_told again).1
      · exact (simulate_told again).2 capacity wanted

end Runner

/-- What an exported document says of the run it holds. With the settings that the scenario used it
would describe the run. It holds those of the runner, which are the same unless the scenario changes
them: the one with one delay does if there are several, and the one with a pool of one buffer if there
are more buffers, or fewer than two nodes. Where the latter changes them, its document describes the
run only if there are two nodes and no tick to run. -/
theorem export_describes_run (runner : Runner) (scenario : Scenario) {result : ScenarioResult}
    {report : RunResult} (ran : runner.run scenario = .ok result)
    (reported : result.run = some report) :
    ({ RunExport.ofScenario runner result with config := runner.settings scenario }).Describes
        scenario report ∧
      (runner.settings scenario = (RunExport.ofScenario runner result).config ↔
        (scenario = .poolExhaustion →
          2 ≤ runner.config.nodeCount ∧ runner.config.capacity = 1) ∧
        (scenario = .fixedDelay → runner.config.minDelay = runner.config.maxDelay)) ∧
      (runner.settings scenario = (RunExport.ofScenario runner result).config →
        (RunExport.ofScenario runner result).Describes scenario report) ∧
      (scenario = .poolExhaustion → runner.maxTicks ≤ lastTick →
        ((RunExport.ofScenario runner result).Describes scenario report ↔
          2 ≤ runner.config.nodeCount ∧
            (runner.config.capacity = 1 ∨
              runner.maxTicks = 0 ∧ 0 < runner.config.capacity))) := by
  refine ⟨Runner.describes_used ran reported, Runner.settings_eq_iff,
    Runner.describes_of_same ran reported, ?_⟩
  rintro rfl bounded
  exact Runner.describes_cramped_iff ran reported bounded

/-- Two nodes that have one buffer. -/
theorem export_describes_run_cramped :
    ∃ result report, Runner.run ⟨5, { nodeCount := 2, capacity := 1 }, 3⟩ .poolExhaustion =
        .ok result ∧
      result.run = some report ∧ report.outcome = .failed 0 1 (.resourceExhausted 1) ∧
      (RunExport.ofScenario ⟨5, { nodeCount := 2, capacity := 1 }, 3⟩ result).Describes
        .poolExhaustion report := by
  obtain ⟨report, ran, failed⟩ :=
    Runner.poolExhaustion_fails ⟨5, { nodeCount := 2, capacity := 1 }, 3⟩ (by decide) (by decide)
      (by decide) (by decide)
  obtain ⟨-, -, -, cramped⟩ := export_describes_run _ _ ran rfl
  exact ⟨_, report, ran, rfl, failed, (cramped rfl (by decide)).mpr (by decide)⟩

/-- A runner of one node. The run has two nodes and wants a second buffer, but the document tells of
one node and of 256 buffers, with which there is no such run. -/
theorem export_misdescribes_run :
    ∃ result report, Runner.run { Runner.new 5 1 with maxTicks := 3 } .poolExhaustion =
        .ok result ∧
      result.run = some report ∧ report.nodes.length = 2 ∧
      report.outcome = .failed 0 1 (.resourceExhausted 1) ∧
      (RunExport.ofScenario { Runner.new 5 1 with maxTicks := 3 } result).config.nodeCount = 1 ∧
      (RunExport.ofScenario { Runner.new 5 1 with maxTicks := 3 } result).config.capacity = 256 ∧
      ¬ (RunExport.ofScenario { Runner.new 5 1 with maxTicks := 3 } result).Describes
        .poolExhaustion report := by
  obtain ⟨report, ran, failed⟩ := Runner.poolExhaustion_fails
    { Runner.new 5 1 with maxTicks := 3 } (by decide) (by decide) (by decide) (by decide)
  obtain ⟨-, -, simulated⟩ := Runner.run_used ran rfl
  have two : report.nodes.length = 2 := (Runner.simulate_told simulated).1
  refine ⟨_, report, ran, rfl, two, failed, rfl, rfl, fun described => ?_⟩
  cases two.symm.trans described.nodes

end Lockstep
