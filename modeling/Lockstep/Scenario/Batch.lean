import Lockstep.Scenario.Runner

/-!
Batches: many runs at once, on a limited number of workers.

Jobs are started in order, as workers come free. Which of the running jobs ends next is not up to
the batch, so a scheduler decides it. Each result is filed under the number of its job.
-/
namespace Lockstep

/-- A batch under way. Jobs are numbered from zero. -/
structure Batch (α β : Type) where
  /-- Jobs that have not been started, with their numbers, in order. -/
  waiting : List (Nat × α)
  /-- Jobs that have been started and have not ended. -/
  running : List (Nat × α)
  /-- The results so far, by number. -/
  results : Array (Option β)

namespace Batch

variable {α β : Type}

/-- What a scheduler lets happen next. -/
inductive Move where
  | start
  /-- The running job at this position of the list ends. -/
  | finish (position : Nat)

/-- Decides what happens next. -/
abbrev Scheduler (α β : Type) := Batch α β → Move

/-- Ends jobs in the order they were started, and only when no other can be started. -/
def eager (limit : Nat) : Scheduler α β := fun batch =>
  if batch.running.length < max limit 1 then .start else .finish 0

/-- A batch that has not begun. -/
def ofJobs (jobs : List α) : Batch α β where
  waiting := jobs.zipIdx.map fun (job, number) => (number, job)
  running := []
  results := Array.replicate jobs.length none

/-- Starts the next job, if there is one and a worker is free. -/
def start? (limit : Nat) (batch : Batch α β) : Option (Batch α β) :=
  match batch.waiting with
  | job :: waiting =>
    if batch.running.length < max limit 1 then
      some { batch with waiting, running := batch.running ++ [job] }
    else none
  | [] => none

/-- Ends the running job at a position, if there is one, and files its result. -/
def finish? (work : α → β) (position : Nat) (batch : Batch α β) : Option (Batch α β) :=
  batch.running[position]?.map fun (number, job) =>
    { batch with
      running := batch.running.eraseIdx position
      results := batch.results.setIfInBounds number (some (work job)) }

/-- Makes a move. One that cannot be made is replaced by one that can, as long as there is any. -/
def move? (work : α → β) (limit : Nat) (batch : Batch α β) : Move → Option (Batch α β)
  | .start => batch.start? limit <|> batch.finish? work 0
  | .finish position =>
    batch.finish? work position <|> batch.start? limit <|> batch.finish? work 0

/-- Makes at most `moves` moves. -/
def proceed (work : α → β) (limit : Nat) (scheduler : Scheduler α β) :
    (moves : Nat) → Batch α β → Batch α β
  | 0, batch => batch
  | moves + 1, batch =>
    match batch.move? work limit (scheduler batch) with
    | none => batch
    | some batch => proceed work limit scheduler moves batch

/-- The results of all jobs, in the order of the jobs. Every job is started once and ends once, so
two moves for each are enough. -/
def evaluate (work : α → β) (limit : Nat) (scheduler : Scheduler α β) (jobs : List α) : List β :=
  (proceed work limit scheduler (2 * jobs.length) (ofJobs jobs)).results.toList.filterMap id

end Batch

namespace Runner

/-- The most workers a batch can have: three bits of a word are not for counting them. -/
def greatestLimit : Nat := wordCount / 8 - 1

/-- Every scenario with every seed, seed by seed. -/
def jobs (scenarios : List Scenario) (seeds : List UInt64) : List (UInt64 × Scenario) :=
  seeds.flatMap fun seed => scenarios.map fun scenario => (seed, scenario)

/-- A job of a batch: a run of a scenario with a seed of its own. -/
def runJob (runner : Runner) (job : UInt64 × Scenario) : Except Breach ScenarioResult :=
  { runner with seed := job.1 }.run job.2

/-- Runs every scenario with every seed on at most `limit` workers. It is a breach to allow more of
them than `greatestLimit`, even if there is less to do. -/
def evaluateSeeds (runner : Runner) (limit : Nat)
    (scheduler : Batch.Scheduler (UInt64 × Scenario) (Except Breach ScenarioResult))
    (scenarios : List Scenario) (seeds : List UInt64) : Except Breach (List ScenarioResult) :=
  if greatestLimit < limit then .error (.tooManyWorkers limit)
  else (Batch.evaluate runner.runJob limit scheduler (jobs scenarios seeds)).mapM id

end Runner

end Lockstep
