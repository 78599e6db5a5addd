import Lockstep.Proofs.Scenario.Exported
import Lockstep.Scenario.Batch
import Mathlib.Data.List.ProdSigma
import Mathlib.Data.Option.Basic

/-!
What a batch comes to.

Which of the running jobs ends next is up to a scheduler, but a result is filed under the number of
its job. So at every moment each job has its own result or is still to be started or ended
(`Batch.Attributed`), and every move brings a batch nearer to its end. Whatever the scheduler
decides and however many workers there are, the results are those of the jobs one after another
(`Batch.evaluate_eq_map`).
-/
namespace Lockstep

namespace Batch

variable {α β : Type} {work : α → β} {limit : Nat} {jobs : List α} {batch moved : Batch α β}

/-- The jobs that are still to be started or ended, with their numbers. -/
def unfinished (batch : Batch α β) : List (Nat × α) :=
  batch.waiting ++ batch.running

/-- How many moves are left. A job that waits is still to be started and to be ended. -/
def movesLeft (batch : Batch α β) : Nat :=
  2 * batch.waiting.length + batch.running.length

theorem unfinished_of_movesLeft (finished : batch.movesLeft = 0) : batch.unfinished = [] := by
  have waiting : batch.waiting.length = 0 := by unfold movesLeft at finished; omega
  have running : batch.running.length = 0 := by unfold movesLeft at finished; omega
  rw [unfinished, List.eq_nil_of_length_eq_zero waiting, List.eq_nil_of_length_eq_zero running]
  rfl

/-! ### One move -/

/-- What a move can do to a batch: it starts the next job if a worker is free, or ends a job and
files its result. -/
inductive Moves (work : α → β) (limit : Nat) (batch : Batch α β) : Batch α β → Prop
  | started {job : Nat × α} {waiting : List (Nat × α)} (next : batch.waiting = job :: waiting)
      (free : batch.running.length < max limit 1) :
      Moves work limit batch { batch with waiting, running := batch.running ++ [job] }
  | ended {position number : Nat} {job : α}
      (found : batch.running[position]? = some (number, job)) :
      Moves work limit batch { batch with
        running := batch.running.eraseIdx position
        results := batch.results.setIfInBounds number (some (work job)) }

theorem moves_of_start? (made : batch.start? limit = some moved) :
    Moves work limit batch moved := by
  unfold start? at made
  split at made
  · rename_i next
    split at made
    · rename_i free
      cases made
      exact .started next free
    · cases made
  · cases made

theorem moves_of_finish? {position : Nat} (made : batch.finish? work position = some moved) :
    Moves work limit batch moved := by
  obtain ⟨⟨number, job⟩, found, rfl⟩ := Option.map_eq_some_iff.mp made
  exact .ended found

theorem moves_of_move? {move : Move} (made : batch.move? work limit move = some moved) :
    Moves work limit batch moved := by
  cases move with
  | start =>
    rcases (Option.orElse_eq_some _ _ _).mp made with started | ⟨-, ended⟩
    · exact moves_of_start? started
    · exact moves_of_finish? ended
  | finish position =>
    rcases (Option.orElse_eq_some _ _ _).mp made with ended | ⟨-, otherwise⟩
    · exact moves_of_finish? ended
    · rcases (Option.orElse_eq_some _ _ _).mp otherwise with started | ⟨-, ended⟩
      · exact moves_of_start? started
      · exact moves_of_finish? ended

/-- A batch that no move is left for has come to its end: there is always a worker for a job. -/
theorem unfinished_of_move? {move : Move} (stuck : batch.move? work limit move = none) :
    batch.unfinished = [] := by
  have neither : batch.start? limit = none ∧ batch.finish? work 0 = none := by
    cases move with
    | start => exact (Option.orElse_eq_none _ _).mp stuck
    | finish position =>
      obtain ⟨-, otherwise⟩ := (Option.orElse_eq_none _ _).mp stuck
      exact (Option.orElse_eq_none _ _).mp otherwise
  obtain ⟨unstarted, unended⟩ := neither
  have running : batch.running = [] := by
    have missing := List.getElem?_eq_none_iff.mp (Option.map_eq_none_iff.mp unended)
    exact List.eq_nil_of_length_eq_zero (Nat.le_zero.mp missing)
  have waiting : batch.waiting = [] := by
    cases next : batch.waiting with
    | nil => rfl
    | cons job waiting => simp [start?, next, running] at unstarted
  rw [unfinished, waiting, running]
  rfl

theorem Moves.movesLeft (made : Moves work limit batch moved) :
    moved.movesLeft + 1 = batch.movesLeft := by
  cases made with
  | started next free =>
    simp only [Batch.movesLeft, next, List.length_append, List.length_cons, List.length_nil]
    omega
  | @ended position number job found =>
    have inside := (List.getElem?_eq_some_iff.mp found).1
    simp only [Batch.movesLeft, List.length_eraseIdx_of_lt inside]
    omega

theorem Moves.running_le (made : Moves work limit batch moved)
    (few : batch.running.length ≤ max limit 1) : moved.running.length ≤ max limit 1 := by
  cases made with
  | started next free =>
    rw [List.length_append]
    exact free
  | ended found => exact Nat.le_trans (List.length_eraseIdx_le _ _) few

/-! ### Where the results come from -/

/-- Every job has its own result unless it is unfinished. -/
structure Attributed (work : α → β) (jobs : List α) (batch : Batch α β) : Prop where
  known : ∀ {number job}, (number, job) ∈ batch.unfinished → jobs[number]? = some job
  size : batch.results.size = jobs.length
  settled : ∀ {number job}, jobs[number]? = some job →
    (number, job) ∈ batch.unfinished ∨ batch.results[number]? = some (some (work job))

theorem attributed_ofJobs (work : α → β) (jobs : List α) : (ofJobs jobs).Attributed work jobs where
  known {number job} member := by
    simp only [unfinished, ofJobs, List.append_nil, List.mem_map, Prod.mk.injEq] at member
    obtain ⟨⟨_, _⟩, numbered, rfl, rfl⟩ := member
    exact List.mk_mem_zipIdx_iff_getElem?.mp numbered
  size := by simp [ofJobs]
  settled {number job} listed := by
    left
    simp only [unfinished, ofJobs, List.append_nil]
    exact List.mem_map.mpr ⟨(job, number), List.mk_mem_zipIdx_iff_getElem?.mpr listed, rfl⟩

theorem Attributed.started {job : Nat × α} {waiting : List (Nat × α)}
    (attributed : batch.Attributed work jobs) (next : batch.waiting = job :: waiting) :
    Attributed work jobs { batch with waiting, running := batch.running ++ [job] } := by
  have same : ∀ other, other ∈ waiting ++ (batch.running ++ [job]) ↔ other ∈ batch.unfinished := by
    intro other
    rw [unfinished, next, List.cons_append, List.mem_cons, ← List.append_assoc, List.mem_append,
      List.mem_singleton]
    exact or_comm
  refine ⟨fun member => attributed.known ((same _).mp member), attributed.size, fun listed => ?_⟩
  exact (attributed.settled listed).imp_left (same _).mpr

/-- Only the job that ends is finished by it, and that has a number of its own. -/
theorem mem_unfinished_ended {position number other : Nat} {job wanted : α}
    {results : Array (Option β)} (found : batch.running[position]? = some (number, job))
    (apart : other ≠ number) (member : (other, wanted) ∈ batch.unfinished) :
    (other, wanted) ∈ unfinished { batch with
      running := batch.running.eraseIdx position, results } := by
  rcases List.mem_append.mp member with waits | runs
  · exact List.mem_append_left _ waits
  · apply List.mem_append_right
    obtain ⟨place, holds⟩ := List.mem_iff_getElem?.mp runs
    refine List.mem_eraseIdx_iff_getElem?.mpr ⟨place, ?_, holds⟩
    rintro rfl
    cases found.symm.trans holds
    exact apart rfl

theorem Attributed.ended {position number : Nat} {job : α}
    (attributed : batch.Attributed work jobs)
    (found : batch.running[position]? = some (number, job)) :
    Attributed work jobs { batch with
      running := batch.running.eraseIdx position
      results := batch.results.setIfInBounds number (some (work job)) } := by
  have listed : jobs[number]? = some job :=
    attributed.known (List.mem_append_right _ (List.mem_of_getElem? found))
  have inside : number < batch.results.size := by
    rw [attributed.size]
    exact (List.getElem?_eq_some_iff.mp listed).1
  have fewer : batch.waiting ++ batch.running.eraseIdx position ⊆ batch.unfinished :=
    ((List.eraseIdx_sublist _ _).append_left _).subset
  refine ⟨fun member => attributed.known (fewer member), ?_, fun {other wanted} known => ?_⟩
  · rw [Array.size_setIfInBounds, attributed.size]
  · by_cases filed : other = number
    · subst filed
      cases listed.symm.trans known
      right
      rw [Array.getElem?_setIfInBounds_self_of_lt inside]
    · refine (attributed.settled known).imp (mem_unfinished_ended found filed) fun result => ?_
      rw [Array.getElem?_setIfInBounds_ne (Ne.symm filed)]
      exact result

theorem Attributed.moves (attributed : batch.Attributed work jobs)
    (made : Moves work limit batch moved) : moved.Attributed work jobs := by
  cases made with
  | started next free => exact attributed.started next
  | ended found => exact attributed.ended found

/-! ### The whole batch -/

/-- What every move keeps is kept all along. -/
theorem proceed_keeps (Keeps : Batch α β → Prop) (scheduler : Scheduler α β) (moves : Nat)
    (move : ∀ batch moved, Moves work limit batch moved → Keeps batch → Keeps moved)
    (begins : Keeps batch) : Keeps (batch.proceed work limit scheduler moves) := by
  induction moves generalizing batch with
  | zero => exact begins
  | succ moves ih =>
    rw [proceed]
    split
    · exact begins
    · rename_i made
      exact ih (move _ _ (moves_of_move? made) begins)

theorem Attributed.proceed (attributed : batch.Attributed work jobs) (limit : Nat)
    (scheduler : Scheduler α β) (moves : Nat) :
    (batch.proceed work limit scheduler moves).Attributed work jobs :=
  proceed_keeps (Attributed work jobs) scheduler moves
    (fun _ _ made attributed => attributed.moves made) attributed

/-- There are never more jobs under way than there may be workers, or one if none is allowed. -/
theorem running_proceed_le (work : α → β) (scheduler : Scheduler α β) (moves : Nat)
    (few : batch.running.length ≤ max limit 1) :
    (batch.proceed work limit scheduler moves).running.length ≤ max limit 1 :=
  proceed_keeps (fun batch => batch.running.length ≤ max limit 1) scheduler moves
    (fun _ _ made few => made.running_le few) few

/-- With as many moves as are left, a batch comes to its end. -/
theorem unfinished_proceed (work : α → β) (limit : Nat) (scheduler : Scheduler α β) {moves : Nat}
    (enough : batch.movesLeft ≤ moves) :
    (batch.proceed work limit scheduler moves).unfinished = [] := by
  induction moves generalizing batch with
  | zero => exact unfinished_of_movesLeft (Nat.le_zero.mp enough)
  | succ moves ih =>
    rw [proceed]
    split
    · rename_i stuck
      exact unfinished_of_move? stuck
    · rename_i made
      have nearer := (moves_of_move? made).movesLeft
      exact ih (by omega)

/-- A finished batch holds the result of every job. -/
theorem Attributed.toList (attributed : batch.Attributed work jobs)
    (finished : batch.unfinished = []) :
    batch.results.toList = jobs.map fun job => some (work job) := by
  apply List.ext_getElem?
  intro number
  rw [Array.getElem?_toList, List.getElem?_map]
  cases listed : jobs[number]? with
  | none =>
    have outside := List.getElem?_eq_none_iff.mp listed
    rw [← attributed.size] at outside
    exact Array.getElem?_eq_none outside
  | some job =>
    rcases attributed.settled listed with member | filed
    · rw [finished] at member
      cases member
    · exact filed

/-- The results are those of the jobs one after another. -/
theorem evaluate_eq_map (work : α → β) (limit : Nat) (scheduler : Scheduler α β) (jobs : List α) :
    evaluate work limit scheduler jobs = jobs.map work := by
  have enough : (ofJobs jobs : Batch α β).movesLeft ≤ 2 * jobs.length := by
    simp [movesLeft, ofJobs]
  have attributed := (attributed_ofJobs work jobs).proceed limit scheduler (2 * jobs.length)
  rw [evaluate, attributed.toList (unfinished_proceed work limit scheduler enough),
    List.filterMap_map]
  exact congrFun List.filterMap_eq_map jobs

end Batch

namespace Runner

variable {scenarios : List Scenario} {seeds : List UInt64}

theorem length_jobs (scenarios : List Scenario) (seeds : List UInt64) :
    (jobs scenarios seeds).length = seeds.length * scenarios.length :=
  List.length_product seeds scenarios

/-- Jobs are numbered seed by seed. -/
theorem getElem?_jobs {place column : Nat} {seed : UInt64} {scenario : Scenario}
    (seeded : seeds[place]? = some seed) (chosen : scenarios[column]? = some scenario) :
    (jobs scenarios seeds)[place * scenarios.length + column]? = some (seed, scenario) := by
  have inside := (List.getElem?_eq_some_iff.mp chosen).1
  induction seeds generalizing place with
  | nil => cases seeded
  | cons first seeds ih =>
    rw [jobs, List.flatMap_cons]
    cases place with
    | zero =>
      cases seeded
      rw [Nat.zero_mul, Nat.zero_add, List.getElem?_append_left (by rwa [List.length_map]),
        List.getElem?_map, chosen]
      rfl
    | succ place =>
      have later : (scenarios.map fun scenario => (first, scenario)).length ≤
          (place + 1) * scenarios.length + column := by
        rw [List.length_map, Nat.succ_mul]
        omega
      rw [List.getElem?_append_right later, List.length_map, Nat.succ_mul, Nat.add_right_comm,
        Nat.add_sub_cancel]
      exact ih seeded

/-- Every job of a batch comes to a result. -/
theorem exists_runJob (runner : Runner) :
    ∃ outcome : UInt64 × Scenario → ScenarioResult, ∀ job, runner.runJob job = .ok (outcome job) :=
  Classical.skolem.mp fun (job : UInt64 × Scenario) =>
    exists_run { runner with seed := job.1 } job.2

/-- A batch that may have at most `greatestLimit` workers, none included, comes to one result for
every seed and scenario. Whatever order the jobs end in, it stands where the seed and the scenario
stand in their lists, seed by seed, and is that of a run by itself. With more workers allowed there
is no result. -/
theorem evaluateSeeds_sequential (runner : Runner) (limit : Nat)
    (scheduler : Batch.Scheduler (UInt64 × Scenario) (Except Breach ScenarioResult))
    (scenarios : List Scenario) (seeds : List UInt64) :
    (limit ≤ greatestLimit → ∃ results,
      runner.evaluateSeeds limit scheduler scenarios seeds = .ok results ∧
      results.length = seeds.length * scenarios.length ∧
      ∀ place column seed scenario, seeds[place]? = some seed →
        scenarios[column]? = some scenario → ∃ result,
          { runner with seed }.run scenario = .ok result ∧
          results[place * scenarios.length + column]? = some result) ∧
    (greatestLimit < limit →
      runner.evaluateSeeds limit scheduler scenarios seeds = .error (.tooManyWorkers limit)) := by
  refine ⟨fun allowed => ?_, fun excessive => if_pos excessive⟩
  obtain ⟨outcome, ran⟩ := runner.exists_runJob
  refine ⟨(jobs scenarios seeds).map outcome, ?_, ?_, ?_⟩
  · rw [evaluateSeeds, if_neg (Nat.not_lt.mpr allowed), Batch.evaluate_eq_map, List.mapM_map,
      Function.id_comp, funext ran]
    exact List.mapM_pure
  · rw [List.length_map, length_jobs]
  · intro place column seed scenario seeded chosen
    refine ⟨outcome (seed, scenario), ran (seed, scenario), ?_⟩
    rw [List.getElem?_map, getElem?_jobs seeded chosen]
    rfl

/-- Two seeds and two scenarios. No worker is allowed, and there is one all the same. -/
theorem evaluateSeeds_sequential_four :
    ∃ results, (Runner.new 0 3).evaluateSeeds 0 (Batch.eager 0) [.ringElection, .silent] [5, 1] =
        .ok results ∧
      results.length = 4 ∧
      ∃ result, (Runner.new 1 3).run .silent = .ok result ∧ results[3]? = some result := by
  obtain ⟨sequential, -⟩ :=
    evaluateSeeds_sequential (Runner.new 0 3) 0 (Batch.eager 0) [.ringElection, .silent] [5, 1]
  obtain ⟨results, ran, length, each⟩ := sequential (Nat.zero_le _)
  exact ⟨results, ran, length, each 1 1 1 .silent rfl rfl⟩

/-- A batch of one job that may have a worker more than it can has no result, whoever works. -/
theorem evaluateSeeds_excessive :
    ¬ ∃ results, ({ Runner.new 42 1 with maxTicks := 1 } : Runner).evaluateSeeds
      2305843009213693952 (Batch.eager 2305843009213693952) [.silent] [1] = .ok results := by
  rintro ⟨results, ran⟩
  have refused : ({ Runner.new 42 1 with maxTicks := 1 } : Runner).evaluateSeeds
      2305843009213693952 (Batch.eager 2305843009213693952) [.silent] [1] =
        .error (.tooManyWorkers 2305843009213693952) :=
    if_pos (by decide)
  cases refused.symm.trans ran

end Runner

end Lockstep
