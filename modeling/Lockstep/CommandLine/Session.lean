import Lockstep.Scenario.Batch
import Lockstep.CommandLine.Options
import Lockstep.CommandLine.Files
import Lockstep.Scenario.Export
import Lockstep.Scenario.Fitness
import Lockstep.Text

/-!
A session of the command line: what it says, which files it uses and how it ends.

A `Session` is the tree of what a session may do, with a branch for each answer of the system. So
everything about it but carrying it out is decided here.
-/
namespace Lockstep.CommandLine

/-- The weight of a line of the log. -/
inductive LogLevel where
  | info
  | error
  deriving DecidableEq

/-- The name of a level. -/
def LogLevel.name : LogLevel → String
  | .info => "INFO"
  | .error => "ERROR"

/-- Something a session says. -/
inductive Line where
  /-- To standard output, where the text ends as it does. -/
  | output (text : String)
  /-- A line of its own to standard error. -/
  | complaint (text : String)
  | log (level : LogLevel) (text : String)
  deriving DecidableEq

/-- What is written of a line. The log may name things of the caller, and does so safely. -/
def Line.text : Line → String
  | .output text => text
  | .complaint text => text
  | .log _ text => shown text

/-- The lines of standard error, with the level of those that begin an entry of the log. -/
def Line.errorLines (line : Line) : List (Option LogLevel × String) :=
  match line, linesOf line.text with
  | .output _, _ => []
  | .log level _, first :: rest => (some level, first) :: rest.map (none, ·)
  | _, texts => texts.map (none, ·)

/-- What a session does, up to its end. -/
inductive Session where
  | exit (code : UInt8)
  | say (line : Line) (next : Unit → Session)
  /-- The answer is what comes of reading the file. -/
  | readFile (path : String) (next : FileContent → Session)
  /-- The answer is nothing, or the reason the file cannot be written. -/
  | writeFile (path content : String) (next : Except String Unit → Session)
  /-- The answer is a word by chance. -/
  | chance (next : UInt64 → Session)

namespace Session

/-- Says lines one after another. -/
def sayAll (lines : List Line) (next : Unit → Session) : Session :=
  match lines with
  | [] => next ()
  | line :: rest => .say line fun _ => sayAll rest next

/-- Says a last line of the log and ends. -/
def logAndExit (level : LogLevel) (text : String) (code : UInt8) : Session :=
  .say (.log level text) fun _ => .exit code

end Session

/-- The code a session ends with when arguments make no sense. -/
def misuseCode : UInt8 := 2

/-- The code a session ends with when a contract was broken. -/
def breachCode : UInt8 := 101

/-- The line under the title and above the conclusion. -/
def ruler : String :=
  String.ofList (List.replicate 53 '━')

/-- What a session without JSON output starts with. -/
def banner : List Line :=
  [.log .info "gpnet Simulator v0.1.0", .log .info ruler]

/-- The scenarios that can be asked for. -/
def availableText : String :=
  "Available scenarios: " ++ ", ".intercalate (Scenario.all.map Scenario.name ++ ["all"])

/-- The scenarios of a name. -/
def scenariosOf? (name : String) : Option (List Scenario) :=
  if name = "all" then some Scenario.all else (Scenario.ofName? name).map ([·])

/-- The settings used without a file: five nodes and as many buffers as scenarios get. -/
def usualConfig : NetworkConfig :=
  { nodeCount := 5, capacity := 256 }

/-- Settings with what the options set in their place. They must be valid. -/
def applyOptions (options : Options) (config : NetworkConfig) : Except ToolError NetworkConfig :=
  let config :=
    { config with
      nodeCount := options.nodes.getD config.nodeCount
      minDelay := options.minDelay.getD config.minDelay
      maxDelay := options.maxDelay.getD config.maxDelay
      capacity := options.capacity.getD config.capacity }
  match config.validate with
  | .ok _ => .ok config
  | .error error => .error (.config error)

/-- The settings in a file. One that holds no text is no document. -/
def configOfFile (content : FileContent) : Except ToolError NetworkConfig :=
  match content with
  | .closed reason => .error (.file reason)
  | .unreadable => .error .json
  | .text text =>
    match Json.parse? text >>= NetworkConfig.ofJson? with
    | some config => .ok config
    | none => .error .json

/-- How a scenario's runs are rated. Elections are rated by their result, the others by reacting. -/
def fitnessOf : Scenario → Fitness
  | .ringElection => .usualElection
  | .broadcastElection => .usualElection
  | .fixedDelay => .usualElection
  | _ => .usualReactiveness

/-- The score of a scenario's run, if there was one. -/
def scoreOf (result : ScenarioResult) : Option Float :=
  result.run.map fun run =>
    (fitnessOf result.scenario).score (.ofRun run SymbolTable.standard.nodeId)

/-- Why a scenario failed, in words. -/
def reasonOf (result : ScenarioResult) : String :=
  result.failureReason.getD "unknown"

/-- The seed of a result in brackets. -/
def seedText (seed : UInt64) : String :=
  "(seed=" ++ toString seed.toNat ++ ")"

/-- A result in the summary. Members stand in alphabetical order. -/
def resultJson (result : ScenarioResult) : Json :=
  .obj [
    ("failure_reason", .option .str result.failureReason),
    ("fitness", .option .float (scoreOf result)),
    ("messages_sent", .option (fun run => .nat run.stats.messagesSent) result.run),
    ("passed", .bool result.passed),
    ("scenario", .str result.scenario.name),
    ("seed", .nat result.seed.toNat),
    ("ticks", .nat result.ticksRun)]

/-- How many results did not pass. -/
def failedCount (results : List ScenarioResult) : Nat :=
  results.countP fun result => !result.passed

/-- The summary of results as JSON. Members stand in alphabetical order. -/
def summaryJson (results : List ScenarioResult) : Json :=
  .obj [
    ("failed", .nat (failedCount results)),
    ("passed", .nat (results.length - failedCount results)),
    ("results", .list resultJson results),
    ("total", .nat results.length)]

/-- The line for a result that passed. -/
def passedLine (result : ScenarioResult) : Line :=
  .log .info ("✓ " ++ result.scenario.name ++ " " ++ seedText result.seed ++ " PASSED fitness=" ++
    fixedPlaces 2 ((scoreOf result).getD 0))

/-- The line for a result that did not pass. -/
def failedLine (result : ScenarioResult) : Line :=
  .log .error ("  - " ++ result.scenario.name ++ " seed=" ++ toString result.seed.toNat ++ ": " ++
    reasonOf result)

/-- What is said of results without JSON output: those that passed, then how many failed, then
those that failed. -/
def summaryLines (results : List ScenarioResult) : List Line :=
  let failed := failedCount results
  let total := toString results.length
  (results.filter (·.passed)).map passedLine ++ [.log .info "", .log .info ruler] ++
    if failed = 0 then [.log .info ("✅ All " ++ total ++ " scenario runs passed!")]
    else
      .log .error ("❌ " ++ toString failed ++ "/" ++ total ++ " scenario runs failed!") ::
        (results.filter fun result => !result.passed).map failedLine

/-- Reports results and ends. It is a success if all passed. -/
def conclude (options : Options) (results : List ScenarioResult) : Session :=
  let lines :=
    if options.json then [Line.output ((summaryJson results).pretty ++ "\n")]
    else summaryLines results
  Session.sayAll lines fun _ => .exit (if failedCount results = 0 then 0 else 1)

/-- The results a session is about. Several seeds are derived from the one given and run as a
batch. -/
def results (options : Options) (runner : Runner) (scenarios : List Scenario) :
    Except Breach (List ScenarioResult) :=
  if options.seeds ≤ 1 then runner.runEach scenarios
  else
    runner.evaluateSeeds options.parallel (Batch.eager options.parallel) scenarios
      (deriveSeeds runner.seed options.seeds)

/-- What is said when an export has been written. -/
def afterExport (result : ScenarioResult) (path : String) : Session :=
  .say (.log .info ("Exported " ++ result.scenario.name ++ " to " ++ path)) fun _ =>
    if result.passed then
      .logAndExit .info
        ("✓ " ++ result.scenario.name ++ " " ++ seedText result.seed ++ " PASSED") 0
    else
      .logAndExit .error
        ("✗ " ++ result.scenario.name ++ " FAILED: " ++ reasonOf result) 1

/-- Runs the only scenario and writes its export. -/
def exportRun (options : Options) (runner : Runner) (scenarios : List Scenario) (path : String) :
    Session :=
  match scenarios, decide (options.seeds ≤ 1) with
  | [scenario], true =>
    match runner.run scenario with
    | .error _ => .exit breachCode
    | .ok result =>
      let document := { RunExport.ofScenario runner result with fitness := scoreOf result }
      .writeFile path document.render fun
        | .error reason =>
          .logAndExit .error ("Failed to write export: " ++ (ToolError.file reason).message) 1
        | .ok _ => afterExport result path
  | _, _ =>
    .say (.complaint "Error: --export only supports a single scenario and a single seed") fun _ =>
      .exit 1

/-- Runs scenarios and reports them, or exports one. -/
def runScenarios (options : Options) (scenarios : List Scenario) (config : NetworkConfig)
    (seed : UInt64) : Session :=
  let runner : Runner := { seed, config, maxTicks := options.ticks }
  match options.exportTo with
  | some path => exportRun options runner scenarios path
  | none =>
    match results options runner scenarios with
    | .error _ => .exit breachCode
    | .ok results => conclude options results

/-- Settles the seed. A seed of zero stands for one by chance, which is not zero. -/
def withSeed (options : Options) (next : UInt64 → Session) : Session :=
  if options.seed = 0 then
    .chance fun word =>
      let seed := ((Seeded.new word).uniform 1 (wordCount - 1)).1
      .say (.log .info ("Using random seed " ++ toString seed)) fun _ => next (UInt64.ofNat seed)
  else next (UInt64.ofNat options.seed)

/-- Goes on with settings, or complains and ends. -/
def withConfig (options : Options) (content : Except ToolError NetworkConfig)
    (next : NetworkConfig → Session) : Session :=
  match content >>= applyOptions options with
  | .ok config => next config
  | .error error => .say (.complaint ("Error: " ++ error.message)) fun _ => .exit 1

/-- Settles the settings, from a file if one is given. -/
def loadConfig (options : Options) (next : NetworkConfig → Session) : Session :=
  match options.config with
  | some path => .readFile path fun content => withConfig options (configOfFile content) next
  | none => withConfig options (.ok usualConfig) next

/-- A session with these options. -/
def session (options : Options) : Session :=
  Session.sayAll (if options.json then [] else banner) fun _ =>
    match scenariosOf? options.scenario with
    | none =>
      .sayAll [.complaint ("Error: " ++ unknownScenarioText options.scenario),
        .complaint availableText] fun _ => .exit 1
    | some scenarios =>
      loadConfig options fun config =>
        withSeed options fun seed => runScenarios options scenarios config seed

/-- A session with these arguments. -/
def start (arguments : List String) : Session :=
  match parse arguments with
  | .ok options => session options
  | .error .help => .say (.output helpText) fun _ => .exit 0
  | .error .misuse =>
    .say (.complaint "Error: arguments not understood; see --help") fun _ => .exit misuseCode

/-- What came of a session. -/
structure Transcript where
  code : UInt8
  /-- What was said, in order. -/
  lines : List Line
  /-- The files as the session leaves them. -/
  files : Files

/-- Carries a session out on files that nobody else changes, with a given word for chance. Answers
the transcript, which begins with the lines so far. -/
def Session.carryOut (chance : UInt64) :
    Session → (lines : List Line) → (files : Files) → Transcript
  | .exit code, lines, files => ⟨code, lines.reverse, files⟩
  | .say line next, lines, files => (next ()).carryOut chance (line :: lines) files
  | .readFile path next, lines, files => (next (files.read path)).carryOut chance lines files
  | .writeFile path content next, lines, files =>
    match files.write path content with
    | .error reason => (next (.error reason)).carryOut chance lines files
    | .ok files => (next (.ok ())).carryOut chance lines files
  | .chance next, lines, files => (next chance).carryOut chance lines files

end Lockstep.CommandLine
