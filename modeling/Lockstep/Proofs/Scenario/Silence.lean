import Lockstep.Proofs.Network.Solitude
import Lockstep.Proofs.Node.Stillness
import Lockstep.Proofs.Scenario.Simulated
import Lockstep.Proofs.Table.Created

/-!
The scenario in which nothing happens.

On a table where all that does not last starts as zero, the memory a node starts with is rolled to
itself and has no change in it (`Memory.roll_seeded`, `Memory.pending_seeded`). A program that does
nothing leaves it so, every tick is idle from the first on, and the run ends when the window of
quiescence is full, if there is one (`Network.Hushed.run`). What the scenario makes of that is known
from its settings (`Runner.silent_verdict`).
-/
namespace Lockstep

/-- What does not last starts as zero. -/
def SymbolTable.StartsBlank (table : SymbolTable) : Prop :=
  ∀ symbol ∈ table.symbols, symbol.copyToNext = false → symbol.initial = .zero

namespace Memory

variable {table : SymbolTable} {index count : Nat}

/-- The first tick starts with the words that the cells start with. -/
theorem next_seeded (blank : table.StartsBlank) :
    (seeded table index count).next = (seeded table index count).current := by
  refine congrArg List.toArray (List.map_congr_left fun symbol member => ?_)
  cases lasts : symbol.copyToNext with
  | true => rfl
  | false =>
    rw [blank symbol member lasts]
    split <;> rfl

theorem pending_seeded (blank : table.StartsBlank) :
    (seeded table index count).pending table = false := by
  refine List.any_eq_false.mpr fun symbol _ => ?_
  simp [readNext, read, next_seeded blank]

theorem roll_seeded (valid : table.Valid) (blank : table.StartsBlank) :
    (seeded table index count).roll table = seeded table index count := by
  have fits := fits_seeded table index count
  apply ext_of_read fits.roll fits
  · intro symbol
    rw [read_roll, readNext, next_seeded blank, read]
  · intro symbol
    rw [readNext_roll valid fits]
    by_cases keeps : table.Keeps symbol
    · rw [if_pos keeps]
    rw [if_neg keeps]
    cases found : table.symbols[symbol]? with
    | none => simp [readNext, seeded, found]
    | some entry =>
      have lost : entry.copyToNext = false := by
        rw [SymbolTable.Keeps, valid.copyPolicy_get, found] at keeps
        simpa using keeps
      have start := blank entry (List.mem_of_getElem? found) lost
      simp [readNext, seeded, found, start, InitialValue.resolve]

end Memory

/-- A call of the program that does nothing. -/
theorem Bytecode.play_silent {table : SymbolTable} (place : Place) (memory : Memory) :
    (silent.call place).play table memory false = (.continue, memory, false) :=
  rfl

/-- A station that has been idle for so many ticks, and has its memory from the start. -/
structure Station.Idling (memory : Memory) (ticks : Nat) (station : Station) : Prop where
  running : station.isTerminated = false
  waiting : station.inbox = []
  idle : station.idle = ticks
  sent : station.sent = 0
  memory : station.memory = memory
  last : 0 < ticks → station.last = some .unchanged

namespace Network

variable {ρ σ : Type} {network : Network ρ σ} {tick index maxTicks : Nat} {scene : Scene ρ σ}
  {station : Station}

/-- A network whose nodes do nothing. -/
structure Hushed (network : Network ρ σ) : Prop where
  settings : network.config.Valid
  valid : network.table.Valid
  blank : network.table.StartsBlank
  program : ∀ index, network.program index = Bytecode.silent.program

/-- Nothing has happened in any tick. -/
abbrev Idling (network : Network ρ σ) (tick taken : Nat) (scene : Scene ρ σ) : Prop :=
  network.Alone
    (fun clock index => Station.Idling (.seeded network.table index network.config.nodeCount) clock)
    { idleTicks := tick, idleStreak := tick } tick taken scene

theorem idling_opening (network : Network ρ σ) (random : ρ) (shared : σ) :
    network.Idling 0 0 (network.opening random shared) := by
  refine ⟨opening_sound network random shared, rfl, rfl, fun index station found => ?_⟩
  obtain ⟨inside, rfl⟩ := opening_found found
  exact ⟨rfl, rfl, rfl, rfl, rfl, fun later => absurd later (Nat.lt_irrefl 0)⟩

/-- A report in which nothing has happened. -/
theorem idling_reported (idling : network.Idling tick 0 scene) {outcome : RunOutcome} {ticks : Nat}
    {node : NodeReport} (listed : (scene.report outcome ticks).nodes[index]? = some node) :
    node.index = index ∧ node.idleStepCount = tick ∧ node.messagesSent = 0 ∧
      node.finalState = (Memory.seeded network.table index network.config.nodeCount).current := by
  obtain ⟨station, found, rfl, place⟩ := idling.sound.reported listed
  have rests := idling.stations index station found
  exact ⟨place, rests.idle, rests.sent, congrArg Memory.current rests.memory⟩

/-- After how many ticks a run ends in which nothing happens. A window of quiescence is full after as
many as it has, and after one at least. -/
def idleEnd (network : Network ρ σ) (maxTicks : Nat) : Nat :=
  network.config.quiescence.elim maxTicks fun window => min maxTicks (max window 1)

namespace Hushed

variable (hushed : network.Hushed)

include hushed

theorem step (scene : Scene ρ σ)
    (idling : station.Idling (.seeded network.table index network.config.nodeCount) tick) :
    ∃ outcome after shared, (∀ error, outcome ≠ .failed error) ∧
      network.plainStep station scene index = ⟨outcome, after, none, shared⟩ ∧
      after.Idling (.seeded network.table index network.config.nodeCount) (tick + 1) := by
  have again : (Memory.seeded network.table index network.config.nodeCount).roll network.table = _ :=
    Memory.roll_seeded hushed.valid hushed.blank
  have played : (network.program index station.place scene.shared).play network.table
      (station.memory.roll network.table) false =
        ((scene.shared, .continue), station.memory, false) := by
    rw [hushed.program, Bytecode.program, Interaction.play_ofView, idling.memory, again,
      Bytecode.play_silent]
  have unchanged : station.memory.pending network.table = false := by
    rw [idling.memory]
    exact Memory.pending_seeded hushed.blank
  have stepped : network.plainStep station scene index = _ :=
    Station.step_continue idling.running idling.waiting played
  rw [unchanged, if_neg Bool.false_ne_true] at stepped
  have settled : (station.settle .unchanged).Idling
      (.seeded network.table index network.config.nodeCount) (tick + 1) :=
    ⟨idling.running, idling.waiting, congrArg (· + 1) idling.idle, idling.sent, idling.memory,
      fun _ => rfl⟩
  exact ⟨.unchanged, _, scene.shared, nofun, stepped, settled⟩

theorem plainTick (idling : network.Idling tick 0 scene) :
    Leads (network.Idling (tick + 1) 0) (fun _ => False) (network.plainTick tick scene) := by
  obtain ⟨turned, ran, holds⟩ := idling.turns hushed.valid
    fun index middle station _ _ rests => hushed.step middle rests
  have quiet : turned.isIdle = true := by
    refine List.all_eq_true.mpr fun station member => ?_
    obtain ⟨index, found⟩ := List.getElem?_of_mem member
    have inside := (List.getElem?_eq_some_iff.mp found).1
    have rests := holds.stations index station found
    rw [if_pos (holds.sound.count ▸ inside)] at rests
    exact beq_iff_eq.mpr (rests.last (Nat.succ_pos tick))
  rw [Network.plainTick, ran]
  apply holds.next
  rw [Scene.countTick, if_pos quiet, holds.tally]

/-- Only a window of quiescence ends the run before its time. -/
theorem ended_iff (idling : network.Idling tick 0 scene) :
    (scene.allTerminated || network.plainQuiescent scene) = true ↔
      ∃ window, network.config.quiescence = some window ∧ window ≤ tick := by
  have running : scene.allTerminated = false :=
    idling.sound.not_allTerminated hushed.settings.nodes fun index station found =>
      (idling.stations index station found).running
  have empty : scene.live = 0 := by
    refine live_eq_zero_iff.mpr ⟨idling.transit, fun station member => ?_⟩
    obtain ⟨index, found⟩ := List.getElem?_of_mem member
    exact (idling.stations index station found).waiting
  rw [running, Bool.false_or, plainQuiescent]
  cases network.config.quiescence with
  | none => simp
  | some window => simp [empty, idling.tally]

/-- A run is idle in all its ticks, and none of them comes after one that has filled the window. -/
theorem concludes (maxTicks : Nat) (random : ρ) (shared : σ) :
    network.Concludes
      (fun ticks scene => network.Idling ticks 0 scene ∧
        ∀ window, network.config.quiescence = some window → ticks ≤ max window 1)
      (fun _ _ => False) maxTicks (network.plainRun maxTicks random shared) := by
  refine plainRun_concludes _ ?_ ⟨network.idling_opening random shared, fun _ _ => Nat.zero_le _⟩
  rintro tick middle - goesOn ⟨idling, -⟩
  obtain ⟨after, ran, kept⟩ := (hushed.plainTick idling).exists_ok
  rw [ran]
  refine ⟨kept, fun window asked => ?_⟩
  cases tick with
  | zero => exact Nat.le_max_right _ _
  | succ before =>
    -- the window was not full, or the run would have ended
    have short : ¬ window ≤ before + 1 := fun full => by
      have ended := (hushed.ended_iff idling).mpr ⟨window, asked, full⟩
      rw [goesOn (Nat.succ_pos before)] at ended
      cases ended
    omega

/-- A run that is idle in all its ticks ends in time. -/
theorem run (maxTicks : Nat) (random : ρ) (shared : σ) :
    ∃ scene, network.Idling (network.idleEnd maxTicks) 0 scene ∧
      (network.plainRun maxTicks random shared).1 =
        scene.report .completed (network.idleEnd maxTicks) := by
  have concludes := hushed.concludes maxTicks random shared
  generalize network.plainRun maxTicks random shared = ended at concludes
  cases concludes with
  | fails failed => exact failed.elim
  | @completes ticks scene holds within early =>
    obtain ⟨idling, bound⟩ := holds
    have last : ticks = network.idleEnd maxTicks := by
      rw [idleEnd]
      cases asked : network.config.quiescence with
      | none =>
        refine Nat.le_antisymm within (Nat.le_of_not_lt fun short => ?_)
        obtain ⟨window, known, -⟩ := (hushed.ended_iff idling).mp (early short).2
        rw [asked] at known
        cases known
      | some window =>
        have full := bound window asked
        refine Nat.le_antisymm (Nat.le_min.mpr ⟨within, full⟩) (Nat.le_of_not_lt fun short => ?_)
        obtain ⟨before, unfilled⟩ := Nat.lt_min.mp short
        obtain ⟨later, ends⟩ := early before
        obtain ⟨known, same, full⟩ := (hushed.ended_iff idling).mp ends
        cases asked.symm.trans same
        omega
    subst last
    exact ⟨scene, idling, rfl⟩

end Hushed

end Network

namespace Runner

/-- A silent run that was idle and sent nothing passes if it took all its ticks. -/
theorem checkSilent_eq_none_iff {result : RunResult} {maxTicks : Nat}
    (completed : result.outcome = .completed) (sent : result.stats.messagesSent = 0)
    (idle : ∀ count ∈ result.idleCounts, count = result.ticksRun) :
    checkSilent maxTicks result = none ↔ result.ticksRun = maxTicks := by
  have quiet : result.idleCounts.any (· != result.ticksRun) = false := by
    refine List.any_eq_false.mpr fun count member => ?_
    simp [idle count member]
  by_cases whole : result.ticksRun = maxTicks
  · simp [checkSilent, RunResult.failureCause, completed, whole ▸ quiet, whole, sent]
  · simp [checkSilent, RunResult.failureCause, completed, whole]

/-- What the scenario runs, if its settings are accepted. -/
theorem exists_hushed (runner : Runner) (settings : runner.config.Valid) :
    ∃ (network : Network Seeded Unit) (scene : Network.Scene Seeded Unit),
      network.table = .standard ∧ network.config = runner.config ∧
      network.Idling (network.idleEnd runner.maxTicks) 0 scene ∧
      runner.simulate runner.config (.ok Bytecode.silent) Router.broadcast runner.seed =
        .ok (.ok (scene.report .completed (network.idleEnd runner.maxTicks))) := by
  have valid : SymbolTable.standard.Valid := SymbolTable.valid_create {} []
  have blank : SymbolTable.standard.StartsBlank := fun _ member lost =>
    SymbolTable.initial_of_lost member lost
  let network : Network Seeded Unit :=
    ⟨.standard, runner.config, fun _ => Bytecode.silent.program, Router.broadcast, Seeded.source⟩
  have built : Network.build .standard runner.config (fun _ => Bytecode.silent.program)
      Router.broadcast Seeded.source = .ok network :=
    Network.build_eq_ok.mpr ⟨settings, valid, rfl⟩
  have hushed : network.Hushed := ⟨settings, valid, blank, fun _ => rfl⟩
  obtain ⟨scene, idling, reported⟩ := hushed.run runner.maxTicks (Seeded.new runner.seed) ()
  refine ⟨network, scene, rfl, rfl, idling, ?_⟩
  rw [runner.simulate_built built, reported]

/-- The scenario in which nothing happens, if its settings are accepted. Its nodes are idle in every
tick and keep what they start with, so it passes unless the window of quiescence is full before the
last tick. -/
theorem silent_verdict (runner : Runner) (accepted : runner.config.validate = .ok ()) :
    ∃ result report, runner.run .silent = .ok result ∧ result.run = some report ∧
      report.outcome = .completed ∧
      report.ticksRun = (runner.config.quiescence.elim runner.maxTicks fun window =>
        min runner.maxTicks (max window 1)) ∧
      report.stats.idleTicks = report.ticksRun ∧
      report.stats.consecutiveIdleTicks = report.ticksRun ∧
      report.stats.messagesSent = 0 ∧
      report.nodes.length = runner.config.nodeCount ∧
      (∀ (index : Nat) (node : NodeReport), report.nodes[index]? = some node →
        node.index = index ∧ node.idleStepCount = report.ticksRun ∧ node.messagesSent = 0 ∧
        ∃ memory, (Memory.new .standard).begin .standard index runner.config.nodeCount =
          .ok memory ∧ node.finalState = memory.current) ∧
      (result.passed = true ↔
        ∀ window, runner.config.quiescence = some window → runner.maxTicks ≤ max window 1) := by
  have settings := NetworkConfig.validate_eq_ok.mp accepted
  have valid : SymbolTable.standard.Valid := SymbolTable.valid_create {} []
  obtain ⟨network, scene, table, config, idling, simulated⟩ := runner.exists_hushed settings
  let report := scene.report .completed (network.idleEnd runner.maxTicks)
  have sent : report.stats.messagesSent = 0 := congrArg Network.Tally.sent idling.tally
  have idle : ∀ count ∈ report.idleCounts, count = report.ticksRun := by
    intro count member
    obtain ⟨node, inside, rfl⟩ := List.mem_map.mp member
    obtain ⟨index, listed⟩ := List.getElem?_of_mem inside
    exact (Network.idling_reported idling listed).2.1
  have ticks : report.ticksRun = runner.config.quiescence.elim runner.maxTicks fun window =>
      min runner.maxTicks (max window 1) := by
    rw [← config]
    rfl
  refine ⟨⟨.silent, runner.seed, some report, checkSilent runner.maxTicks report⟩, report, ?_, rfl,
    rfl, ticks, congrArg Network.Tally.idleTicks idling.tally,
    congrArg Network.Tally.idleStreak idling.tally, sent, ?_, ?_, ?_⟩
  · simp only [run, verdict, simulated, judge, Except.map, bind, Except.bind, pure, Except.pure,
      report]
  · rw [← config]
    exact (List.length_map _).trans idling.sound.count
  · intro index node listed
    obtain ⟨place, count, unsent, state⟩ := Network.idling_reported idling listed
    rw [table, config] at state
    exact ⟨place, count, unsent, _, Memory.begin_eq valid (Memory.fits_new _), state⟩
  · apply Option.isNone_iff_eq_none.trans
    rw [checkSilent_eq_none_iff rfl sent idle, ticks]
    cases runner.config.quiescence with
    | none => simp
    | some window =>
      simp only [Option.elim_some, Option.some.injEq, forall_eq']
      omega

/-- With a window of two ticks the scenario passes if it is to take two, and not if it is to take
three. A window of none is one of one. -/
theorem silent_verdict_two :
    (∃ result, run ⟨7, { quiescence := some 2 }, 2⟩ .silent = .ok result ∧
      result.passed = true) ∧
    (∃ result, run ⟨7, { quiescence := some 2 }, 3⟩ .silent = .ok result ∧
      ¬ result.passed = true) ∧
    (∃ result, run ⟨7, { quiescence := some 0 }, 1⟩ .silent = .ok result ∧
      result.passed = true) ∧
    ∃ result report, run ⟨7, { nodeCount := 4 }, 200⟩ .silent = .ok result ∧
      result.passed = true ∧ result.run = some report ∧ report.ticksRun = 200 := by
  refine ⟨?_, ?_, ?_, ?_⟩
  · obtain ⟨result, -, ran, -, -, -, -, -, -, -, -, passes⟩ :=
      silent_verdict ⟨7, { quiescence := some 2 }, 2⟩ rfl
    exact ⟨result, ran, passes.mpr (by rintro window ⟨⟩; decide)⟩
  · obtain ⟨result, -, ran, -, -, -, -, -, -, -, -, passes⟩ :=
      silent_verdict ⟨7, { quiescence := some 2 }, 3⟩ rfl
    exact ⟨result, ran, fun passed => absurd (passes.mp passed 2 rfl) (by decide)⟩
  · obtain ⟨result, -, ran, -, -, -, -, -, -, -, -, passes⟩ :=
      silent_verdict ⟨7, { quiescence := some 0 }, 1⟩ rfl
    exact ⟨result, ran, passes.mpr (by rintro window ⟨⟩; decide)⟩
  · obtain ⟨result, report, ran, known, -, ticks, -, -, -, -, -, passes⟩ :=
      silent_verdict ⟨7, { nodeCount := 4 }, 200⟩ rfl
    exact ⟨result, report, ran, passes.mpr nofun, known, ticks⟩

end Runner

end Lockstep
