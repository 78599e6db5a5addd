import Lockstep.Machine.Stock
import Lockstep.Proofs.Machine.Calls
import Lockstep.Proofs.Network.Built
import Lockstep.Proofs.Network.Moments
import Lockstep.Proofs.Network.Solitude
import Lockstep.Proofs.Table.Created

/-!
The program that faults in a tick of its choice.

Its counter is a variable: a tick reads how many ticks came before it and stores one more
(`play_faultAt`). So the cell that a node reads lags one tick behind the one it has prepared, and
because the two differ no tick is idle (`Station.Counting`). In the tick of the fault node 0 takes
its turn first and ends the run there: it alone has read its counter for that tick
(`faultAt_on_time`).
-/
namespace Lockstep

/-- Counts that are words are told apart by their words. -/
theorem Cell.ofCount_inj {count other : Nat} (word : count < wordCount)
    (otherWord : other < wordCount) : Cell.ofCount count = Cell.ofCount other ↔ count = other := by
  refine ⟨fun same => ?_, congrArg _⟩
  have bits := congrArg (fun cell : Cell => cell.toBitVec.toNat) same
  simp only [ofCount, Int64.toBitVec_ofNat', BitVec.toNat_ofNat] at bits
  rw [wordCount] at word otherWord
  omega

theorem Cell.ofCount_succ (count : Nat) : ofCount (count + 1) = ofCount count + 1 :=
  Int64.ofNat_add count 1

namespace Bytecode

variable {bytecode : Bytecode} {table : SymbolTable} {tick : Nat}

/-- There is a program that faults for every table with a variable. -/
theorem faultAt_eq (counts : 0 < table.vars.length) (tick : Nat) :
    faultAt table tick = .ok (ofCode #[.load table.vars.start, .push 1, .add,
      .store table.vars.start, .push (Cell.ofCount tick), .load table.vars.start, .sub,
      .jumpIfZero 9, .jump 12, .push 1, .push 0, .div]) := by
  simp [faultAt, SymbolTable.symbolAt, SymbolTable.span, counts, bind, Except.bind, pure,
    Except.pure]

/-- A call stores one more than it reads, and divides by zero if it reads the number of the tick. -/
theorem play_faultAt (made : faultAt table tick = .ok bytecode) (counts : 0 < table.vars.length)
    (noted : table.protection[table.vars.start]? = some false) (place : Place) (memory : Memory) :
    ∃ after,
      memory.stage table table.vars.start (memory.read table.vars.start + 1) = .ok after ∧
      (bytecode.call place).play table memory false =
        (if memory.read table.vars.start = Cell.ofCount tick then .fault .divisionByZero
          else .continue, after, false) := by
  rw [faultAt_eq counts] at made
  cases made
  obtain ⟨after, staged⟩ := memory.exists_stage noted (memory.read table.vars.start + 1)
  have current : after.read table.vars.start = memory.read table.vars.start := by
    obtain ⟨-, rfl⟩ := Memory.stage_eq_ok staged
    rfl
  have tested : Cell.ofCount tick - memory.read table.vars.start = 0 ↔
      memory.read table.vars.start = Cell.ofCount tick := by
    rw [Int64.sub_eq_iff_eq_add, Int64.zero_add, eq_comm]
  refine ⟨after, staged, ?_⟩
  rw [call, show (ofCode _).budget = 1013 + 11 from rfl, Machine.Frame.initial,
    play_load rfl (by simp [Machine.stackDepth]), play_onStack rfl rfl, play_onStack rfl rfl,
    play_store rfl staged, play_onStack rfl rfl, play_load rfl (by simp [Machine.stackDepth]),
    play_onStack rfl rfl, play_jumpIfZero rfl (by simp [ofCode]), current]
  -- what is left depends on the jump: over the division, or into it
  by_cases now : memory.read table.vars.start = Cell.ofCount tick
  · rw [if_pos now, if_pos (tested.mpr now), play_onStack rfl rfl, play_onStack rfl rfl,
      play_fault rfl rfl]
  · rw [if_neg now, if_neg (mt tested.mp now), play_jump rfl (by simp [ofCode]), play_ended rfl]
    rfl

end Bytecode

/-- A station that has counted so many ticks and has done nothing else. -/
structure Station.Counting (table : SymbolTable) (ticks : Nat) (station : Station) : Prop where
  running : station.isTerminated = false
  waiting : station.inbox = []
  idle : station.idle = 0
  sent : station.sent = 0
  last : station.last ≠ some .unchanged
  counted : station.memory.readNext table.vars.start = Cell.ofCount ticks
  /-- What it reads is from the tick before. -/
  lags : station.memory.read table.vars.start = Cell.ofCount (ticks - 1)

namespace Network

variable {ρ σ : Type} {network : Network ρ σ} {bytecode : Bytecode} {fatal tick index : Nat}
  {scene : Scene ρ σ} {station : Station}

/-- A network whose nodes fault in tick number `fatal`. -/
structure Doomed (network : Network ρ σ) (bytecode : Bytecode) (fatal : Nat) : Prop where
  settings : network.config.Valid
  patient : network.config.quiescence ≠ some 0
  valid : network.table.Valid
  made : Bytecode.faultAt network.table fatal = .ok bytecode
  program : ∀ index, network.program index = bytecode.program
  counts : 0 < network.table.vars.length
  noted : network.table.protection[network.table.vars.start]? = some false
  zero : ∀ index, (Memory.seeded network.table index network.config.nodeCount).read
      network.table.vars.start = 0 ∧
    (Memory.seeded network.table index network.config.nodeCount).readNext
      network.table.vars.start = 0
  word : fatal < wordCount

/-- Every node has counted its ticks, and nothing else has happened. -/
abbrev Counted (network : Network ρ σ) : (tick taken : Nat) → Scene ρ σ → Prop :=
  network.Alone (fun clock _ => Station.Counting network.table clock) {}

/-- What the failing turn leaves behind. -/
structure Ended (network : Network ρ σ) (fatal : Nat) (failure : Failure ρ σ) : Prop where
  node : failure.node = 0
  cause : failure.cause = .programFault .divisionByZero
  sound : failure.scene.Sound network
  tally : failure.scene.tally = {}
  stations : ∀ (index : Nat) (station : Station), failure.scene.stations[index]? = some station →
    station.idle = 0 ∧ station.sent = 0 ∧
      station.memory.read network.table.vars.start =
        Cell.ofCount (if index = 0 then fatal else fatal - 1)

namespace Doomed

variable (doomed : network.Doomed bytecode fatal)

include doomed

/-- What a node has in its memory at the end of the program's call in a tick. -/
theorem play (sound : scene.Sound network) (found : scene.stations[index]? = some station)
    (counting : station.Counting network.table tick) (early : tick ≤ fatal) (shared : σ) :
    ∃ memory, memory.read network.table.vars.start = Cell.ofCount tick ∧
      memory.readNext network.table.vars.start = Cell.ofCount (tick + 1) ∧
      (network.program index station.place shared).play network.table
          (station.memory.roll network.table) false =
        ((shared, if tick = fatal then .fault .divisionByZero else .continue), memory, false) := by
  have fits := (sound.rests station (List.mem_of_getElem? found)).fits
  obtain ⟨memory, staged, played⟩ := Bytecode.play_faultAt doomed.made doomed.counts doomed.noted
    station.place (station.memory.roll network.table)
  have read : (station.memory.roll network.table).read network.table.vars.start =
      Cell.ofCount tick :=
    counting.counted
  have now : Cell.ofCount tick = Cell.ofCount fatal ↔ tick = fatal :=
    Cell.ofCount_inj (Nat.lt_of_le_of_lt early doomed.word) doomed.word
  refine ⟨memory, ?_, ?_, ?_⟩
  · obtain ⟨-, rfl⟩ := Memory.stage_eq_ok staged
    exact read
  · rw [Memory.readNext_stage doomed.valid fits.roll staged, if_pos rfl, read, Cell.ofCount_succ]
  · rw [doomed.program, Bytecode.program, Interaction.play_ofView, played]
    simp only [read, now]

/-- Before the tick of the fault a step counts the tick, and does nothing else. -/
theorem step (sound : scene.Sound network) (found : scene.stations[index]? = some station)
    (counting : station.Counting network.table tick) (early : tick < fatal) :
    ∃ outcome after shared, (∀ error, outcome ≠ .failed error) ∧
      network.plainStep station scene index = ⟨outcome, after, none, shared⟩ ∧
      after.Counting network.table (tick + 1) := by
  obtain ⟨memory, reads, prepared, played⟩ :=
    doomed.play sound found counting (Nat.le_of_lt early) scene.shared
  rw [if_neg (Nat.ne_of_lt early)] at played
  -- the counter is about to change, so the step is no idle one
  have differs : memory.readNext network.table.vars.start ≠
      memory.read network.table.vars.start := by
    rw [prepared, reads, Cell.ofCount_succ]
    intro same
    grind
  have changes := Memory.pending_of_ne doomed.valid doomed.noted differs
  have counted : ({ station with memory }.settle .changed).Counting network.table (tick + 1) :=
    ⟨counting.running, counting.waiting, counting.idle, counting.sent, nofun, prepared, reads⟩
  refine ⟨.changed, _, scene.shared, nofun, ?_, counted⟩
  have stepped : network.plainStep station scene index = _ :=
    Station.step_continue counting.running counting.waiting played
  rwa [changes, if_pos rfl] at stepped

/-- In the tick of the fault the turn of node 0 fails. -/
theorem fails (counted : network.Counted fatal 0 scene) :
    ∃ failure, network.plainTurn fatal scene 0 = .error failure ∧ network.Ended fatal failure := by
  obtain ⟨station, found⟩ := counted.sound.found doomed.settings.nodes
  have counting := counted.stations 0 station found
  rw [if_neg (Nat.lt_irrefl 0)] at counting
  obtain ⟨memory, reads, -, played⟩ :=
    doomed.play counted.sound found counting (Nat.le_refl fatal) scene.shared
  rw [if_pos rfl] at played
  have stepped : network.plainStep station scene 0 = ⟨.failed (.fault .divisionByZero),
      { station with memory }.finish (.failed (.fault .divisionByZero)), none, scene.shared⟩ :=
    Station.step_fault counting.running counting.waiting played
  have turned : network.plainTurn fatal scene 0 = .error ⟨scene.setStation 0
      ({ station with memory }.finish (.failed (.fault .divisionByZero))), 0,
      .programFault .divisionByZero⟩ := by
    rw [plainTurn_eq network fatal found, stepped]
    rfl
  have sound := counted.sound.turn doomed.valid fatal doomed.settings.nodes
  rw [turned] at sound
  refine ⟨_, turned, rfl, rfl, sound, counted.tally, fun probe other listed => ?_⟩
  rcases found_of_set listed with ⟨rfl, rfl⟩ | ⟨apart, before⟩
  · exact ⟨counting.idle, counting.sent, reads⟩
  · have late := counted.stations probe other before
    rw [if_neg (Nat.not_lt_zero probe)] at late
    rw [if_neg apart]
    exact ⟨late.idle, late.sent, late.lags⟩

/-- A tick counts, unless it is the tick of the fault. -/
theorem plainTick (counted : network.Counted tick 0 scene) (early : tick ≤ fatal) :
    Leads (fun after => tick < fatal ∧ network.Counted (tick + 1) 0 after)
      (fun failure => tick = fatal ∧ network.Ended fatal failure)
      (network.plainTick tick scene) := by
  have nodes := doomed.settings.nodes
  have turns : Leads
      (fun after => tick < fatal ∧ network.Counted tick network.config.nodeCount after)
      (fun failure => tick = fatal ∧ network.Ended fatal failure)
      (network.plainTurns tick scene) := by
    cases Nat.lt_or_eq_of_le early with
    | inl before =>
      obtain ⟨after, ran, holds⟩ := counted.turns doomed.valid
        fun index middle station sound found counting => doomed.step sound found counting before
      rw [ran]
      exact ⟨before, holds⟩
    | inr now =>
      subst now
      obtain ⟨failure, turned, ended⟩ := doomed.fails counted
      -- node 0 takes the first turn of the tick, so no other node comes to its own
      have first : network.plainTurns tick scene = .error failure := by
        obtain ⟨rest, length⟩ :=
          Nat.exists_eq_succ_of_ne_zero (counted.sound.count ▸ Nat.ne_of_gt nodes)
        rw [plainTurns, length, List.range_succ_eq_map, List.foldlM_cons, turned]
        rfl
      rw [first]
      exact ⟨rfl, ended⟩
  apply plainTick_leads turns
  rintro after ⟨before, holds⟩
  obtain ⟨station, found⟩ := holds.sound.found nodes
  have busy : after.isIdle = false := by
    refine List.all_eq_false.mpr ⟨station, List.mem_of_getElem? found, ?_⟩
    simpa using (holds.stations 0 station found).last
  refine ⟨before, holds.next ?_⟩
  rw [Scene.countTick, busy, if_neg Bool.false_ne_true, holds.tally]

theorem opening (random : ρ) (shared : σ) :
    network.Counted 0 0 (network.opening random shared) := by
  refine ⟨opening_sound network random shared, rfl, rfl, fun index station found => ?_⟩
  obtain ⟨inside, rfl⟩ := opening_found found
  obtain ⟨reads, prepared⟩ := doomed.zero index
  exact ⟨rfl, rfl, rfl, rfl, nofun, prepared, reads⟩

/-- Nothing ends the run after a tick that counts. -/
theorem goesOn (counted : network.Counted tick 0 scene) :
    (scene.allTerminated || network.plainQuiescent scene) = false := by
  have running : scene.allTerminated = false :=
    counted.sound.not_allTerminated doomed.settings.nodes fun index station found =>
      (counted.stations index station found).running
  rw [running, Bool.false_or, ← Bool.not_eq_true]
  intro quiet
  obtain ⟨window, asked, waited, -⟩ := plainQuiescent_eq_true quiet
  rw [counted.tally, Nat.le_zero] at waited
  exact doomed.patient (waited ▸ asked)

/-- A run is over before the tick of the fault, or it ends there. -/
theorem run (maxTicks : Nat) (random : ρ) (shared : σ) :
    (maxTicks ≤ fatal ∧ ∃ scene, network.Counted maxTicks 0 scene ∧
        (network.plainRun maxTicks random shared).1 = scene.report .completed maxTicks) ∨
      fatal < maxTicks ∧ ∃ failure, network.Ended fatal failure ∧
        (network.plainRun maxTicks random shared).1 =
          failure.scene.report (.failed fatal 0 (.programFault .divisionByZero)) fatal := by
  have concludes : network.Concludes (fun ticks scene => ticks ≤ fatal ∧ network.Counted ticks 0 scene)
      (fun tick failure => tick = fatal ∧ network.Ended fatal failure) maxTicks
      (network.plainRun maxTicks random shared) := by
    refine plainRun_concludes _ ?_ ⟨Nat.zero_le fatal, doomed.opening random shared⟩
    rintro tick middle - - ⟨early, counted⟩
    exact doomed.plainTick counted early
  generalize network.plainRun maxTicks random shared = ended at concludes
  cases concludes with
  | completes holds within early =>
    obtain ⟨before, counted⟩ := holds
    cases Nat.lt_or_eq_of_le within with
    | inl short =>
      have ends := (early short).2
      rw [doomed.goesOn counted] at ends
      cases ends
    | inr all =>
      subst all
      exact .inl ⟨before, _, counted, rfl⟩
  | fails failed early =>
    obtain ⟨rfl, ended⟩ := failed
    refine .inr ⟨early, _, ended, ?_⟩
    rw [ended.node, ended.cause]

end Doomed

/-- The networks whose nodes fault in a tick: there is a program for the table, and the network is
accepted. -/
theorem exists_doomed {config : NetworkConfig} (settings : config.Valid)
    (patient : config.quiescence ≠ some 0) {layout : TableLayout} (extras : List SymbolSpec)
    (counts : 0 < layout.variableCount) {fatal : Nat} (word : fatal < wordCount) (router : Router)
    (source : Source ρ) :
    ∃ (bytecode : Bytecode) (network : Network ρ σ),
      Bytecode.faultAt (.create layout extras) fatal = .ok bytecode ∧
      Network.build (.create layout extras) config (fun _ => bytecode.program) router source =
        .ok network ∧
      network.table = .create layout extras ∧ network.config = config ∧
      network.Doomed bytecode fatal := by
  let table := SymbolTable.create layout extras
  have valid : table.Valid := SymbolTable.valid_create layout extras
  have length : 0 < table.vars.length := by
    simpa [table, SymbolTable.create, Span.length] using counts
  obtain ⟨noted, -, zero⟩ := SymbolTable.variable_create layout extras counts
  have made := Bytecode.faultAt_eq length fatal
  refine ⟨_, _, made, build_eq_ok.mpr ⟨settings, valid, rfl⟩, rfl, rfl, ?_⟩
  exact ⟨settings, patient, valid, made, fun _ => rfl, length, noted,
    fun index => zero index config.nodeCount, word⟩

/-- A program made to fault in a tick does so in that tick and in no other. Runs that end before are
completed. One that does not fails at node 0, when that node has read one more tick from its counter
than the others. -/
theorem faultAt_on_time {config : NetworkConfig} (settings : config.Valid)
    (patient : config.quiescence ≠ some 0) {layout : TableLayout} (extras : List SymbolSpec)
    (counts : 0 < layout.variableCount) {fatal : Nat} (word : fatal < wordCount) :
    ∃ (bytecode : Bytecode) (counter : SymbolId),
      Bytecode.faultAt (.create layout extras) fatal = .ok bytecode ∧
      (SymbolTable.create layout extras).symbolAt .var 0 = .ok counter ∧
      ∀ (ρ σ : Type) (router : Router) (source : Source ρ), ∃ network : Network ρ σ,
        Network.build (.create layout extras) config (fun _ => bytecode.program) router source =
          .ok network ∧
        ∀ start, network.Resting start → ∀ maxTicks,
          ∃ result final, network.run maxTicks start = .ok (result, final) ∧
            (maxTicks ≤ fatal → result.outcome = .completed ∧ result.ticksRun = maxTicks) ∧
            (fatal < maxTicks →
              result.outcome = .failed fatal 0 (.programFault .divisionByZero) ∧
              result.ticksRun = fatal ∧
              result.stats.messagesSent = 0 ∧
              result.nodes.length = config.nodeCount ∧
              ∀ (index : Nat) (report : NodeReport), result.nodes[index]? = some report →
                report.index = index ∧ report.idleStepCount = 0 ∧ report.messagesSent = 0 ∧
                report.value counter =
                  Cell.ofCount (if index = 0 then fatal else fatal - 1)) := by
  have length : 0 < (SymbolTable.create layout extras).vars.length := by
    simpa [SymbolTable.create, Span.length] using counts
  refine ⟨_, _, Bytecode.faultAt_eq length fatal, if_pos length, fun ρ σ router source => ?_⟩
  obtain ⟨bytecode, network, made, built, table, rfl, doomed⟩ :=
    exists_doomed (σ := σ) settings patient extras counts word router source
  cases made.symm.trans (Bytecode.faultAt_eq length fatal)
  refine ⟨network, built, fun start resting maxTicks => ?_⟩
  obtain ⟨final, ran, -⟩ :=
    run_depicts doomed.valid (resting.sound doomed.valid) maxTicks
  refine ⟨_, final, ran, ?_⟩
  rcases doomed.run maxTicks start.random start.shared with
    ⟨before, scene, -, lasts⟩ | ⟨past, failure, ended, fails⟩
  · rw [lasts]
    exact ⟨fun _ => ⟨rfl, rfl⟩, fun past => absurd before (Nat.not_le.mpr past)⟩
  · rw [fails]
    refine ⟨fun before => absurd before (Nat.not_le.mpr past), fun _ => ⟨rfl, rfl, ?_, ?_, ?_⟩⟩
    · exact congrArg Tally.sent ended.tally
    · exact List.length_map _ |>.trans ended.sound.count
    · intro index report listed
      obtain ⟨station, found, rfl, place⟩ := ended.sound.reported listed
      obtain ⟨idle, sent, reads⟩ := ended.stations index station found
      rw [table] at reads
      exact ⟨place, idle, sent, reads⟩

/-- Three nodes that fault in tick 2. Node 0 has read 2 by then, and the others 1. -/
theorem faultAt_on_time_two :
    ∃ (bytecode : Bytecode) (counter : SymbolId) (network : Network Nat Unit),
      Bytecode.faultAt .standard 2 = .ok bytecode ∧
      SymbolTable.standard.symbolAt .var 0 = .ok counter ∧
      Network.build .standard { quiescence := some 1 } (fun _ => bytecode.program) Router.ring
        (Source.cycle [1, 3]) = .ok network ∧
      (∃ result final, network.run 2 (network.initial 0 ()) = .ok (result, final) ∧
        result.outcome = .completed ∧ result.ticksRun = 2) ∧
      ∃ result final, network.run 5 (network.initial 0 ()) = .ok (result, final) ∧
        result.outcome = .failed 2 0 (.programFault .divisionByZero) ∧ result.ticksRun = 2 ∧
        result.symbolValues counter = [2, 1, 1] := by
  let config : NetworkConfig := { quiescence := some 1 }
  have settings : config.Valid := ⟨by decide, by decide, by decide, by decide⟩
  have counts : 0 < ({} : TableLayout).variableCount := by decide
  obtain ⟨bytecode, counter, made, named, runs⟩ :=
    faultAt_on_time settings (by decide) [] counts (show 2 < wordCount by decide)
  obtain ⟨network, built, runs⟩ := runs Nat Unit Router.ring (Source.cycle [1, 3])
  obtain ⟨short, final, ran, lasts, -⟩ := runs _ (.initial 0 ()) 2
  obtain ⟨result, later, ranOn, -, fails⟩ := runs _ (.initial 0 ()) 5
  obtain ⟨failed, ticks, -, count, nodes⟩ := fails (by decide)
  refine ⟨bytecode, counter, network, made, named, built,
    ⟨short, final, ran, lasts (Nat.le_refl 2)⟩, result, later, ranOn, failed, ticks, ?_⟩
  have three : (result.symbolValues counter).length = 3 := (List.length_map _).trans count
  refine List.ext_getElem three fun index here _ => ?_
  rw [three] at here
  have value := (nodes index _ (List.getElem?_eq_getElem (count ▸ here))).2.2.2
  refine (List.getElem_map _).trans (value.trans ?_)
  match index, here with
  | 0, _ | 1, _ | 2, _ => rfl

end Network

end Lockstep
