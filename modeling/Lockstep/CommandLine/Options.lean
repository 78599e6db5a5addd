import Lockstep.Cell

/-!
The options of the command line.

An option is given by its long name after two dashes, or by its letter after one. A value follows
as the next argument or after an equals sign, and after a letter also at once; letters of switches
can be run together. No option can be given twice.
-/
namespace Lockstep.CommandLine

/-- What was asked for on the command line. -/
structure Options where
  /-- Zero asks for a seed by chance. -/
  seed : Nat := 42
  nodes : Option Nat := none
  scenario : String := "all"
  seeds : Nat := 1
  ticks : Nat := 200
  minDelay : Option Nat := none
  maxDelay : Option Nat := none
  capacity : Option Nat := none
  config : Option String := none
  parallel : Nat := 4
  verbose : Bool := false
  json : Bool := false
  exportTo : Option String := none
  deriving DecidableEq

/-- Why there are no options to go by. -/
inductive Refusal where
  /-- The arguments asked for help. -/
  | help
  /-- The arguments make no sense. -/
  | misuse
  deriving DecidableEq

/-- Whether an option stands alone or has a value. -/
inductive OptionKind where
  | switch (set : Options → Options)
  /-- The value may be refused. -/
  | valued (set : String → Options → Option Options)

/-- An option of the command line. -/
structure OptionSpec where
  long : String
  letter : Option Char
  kind : OptionKind
  /-- What it is for. -/
  about : String

/-- The number an argument spells: digits, with or without a plus, for less than `wordCount`. -/
def number? (text : String) : Option Nat := do
  let digits := match text.toList with
    | '+' :: rest => rest
    | chars => chars
  guard (digits ≠ [] ∧ digits.all Char.isDigit)
  let number := digits.foldl (fun number c => number * 10 + (c.toNat - '0'.toNat)) 0
  guard (number < wordCount)
  return number

/-- A value that is a number. -/
def OptionKind.number (set : Nat → Options → Options) : OptionKind :=
  .valued fun text options => (number? text).map (set · options)

/-- A value that is taken as it is. -/
def OptionKind.text (set : String → Options → Options) : OptionKind :=
  .valued fun text options => some (set text options)

/-- Every option but help. -/
def specs : List OptionSpec := [
  ⟨"seed", some 's', .number fun n o => { o with seed := n },
    "Master seed for determinism (0 = random from OS entropy) [default: 42]"⟩,
  ⟨"nodes", some 'n', .number fun n o => { o with nodes := some n },
    "Number of nodes"⟩,
  ⟨"scenario", some 'S', .text fun s o => { o with scenario := s },
    "Scenario to run (ring_election, broadcast_election, silent, pool_exhaustion, " ++
      "program_fault, fixed_delay, all) [default: all]"⟩,
  ⟨"seeds", none, .number fun n o => { o with seeds := n },
    "Number of seeds to evaluate, derived from the master seed [default: 1]"⟩,
  ⟨"ticks", some 't', .number fun n o => { o with ticks := n },
    "Maximum ticks per run [default: 200]"⟩,
  ⟨"min-delay", none, .number fun n o => { o with minDelay := some n },
    "Smallest message delay in ticks"⟩,
  ⟨"max-delay", none, .number fun n o => { o with maxDelay := some n },
    "Largest message delay in ticks"⟩,
  ⟨"capacity", none, .number fun n o => { o with capacity := some n },
    "Message pool capacity (max pending messages)"⟩,
  ⟨"config", none, .text fun s o => { o with config := some s },
    "Network configuration JSON file; flags override its values"⟩,
  ⟨"parallel", none, .number fun n o => { o with parallel := n },
    "Parallel simulations in multi-seed mode [default: 4]"⟩,
  ⟨"verbose", some 'v', .switch fun o => { o with verbose := true },
    "Verbose output"⟩,
  ⟨"json", none, .switch fun o => { o with json := true },
    "JSON output for CI parsing"⟩,
  ⟨"export", none, .text fun s o => { o with exportTo := some s },
    "Export the run (single scenario, single seed) to a JSON file"⟩]

/-- The options so far, and the long names of those given. -/
structure Progress where
  options : Options := {}
  given : List String := []

/-- Marks an option as given. It must not have been given before. -/
def Progress.give (progress : Progress) (spec : OptionSpec) (options : Options) :
    Except Refusal Progress :=
  if progress.given.contains spec.long then .error .misuse
  else .ok { options, given := spec.long :: progress.given }

/-- A switch is on. -/
def Progress.switchOn (progress : Progress) (spec : OptionSpec) (set : Options → Options) :
    Except Refusal Progress :=
  progress.give spec (set progress.options)

/-- An option has a value. -/
def Progress.setValue (progress : Progress) (spec : OptionSpec)
    (set : String → Options → Option Options) (value : String) : Except Refusal Progress :=
  match set value progress.options with
  | some options => progress.give spec options
  | none => .error .misuse

/-- An argument that can be a value: one that does not start like an option. A dash alone can. -/
def canBeValue (argument : String) : Bool :=
  !argument.startsWith "-" || argument == "-"

/-- What an argument leaves behind: an option may still wait for its value. -/
inductive Waiting where
  | nothing
  | value (spec : OptionSpec) (set : String → Options → Option Options)

/-- Takes a long option: its name, and its value if there is an equals sign. -/
def takeLong (progress : Progress) (body : String) : Except Refusal (Progress × Waiting) := do
  let chars := body.toList
  let name := String.ofList (chars.takeWhile (· != '='))
  let value := match chars.dropWhile (· != '=') with
    | [] => none
    | _ :: rest => some (String.ofList rest)
  match specs.find? (·.long == name) with
  | none => if name == "help" && value.isNone then throw .help else throw .misuse
  | some spec =>
    match spec.kind, value with
    | .switch set, none => return (← progress.switchOn spec set, .nothing)
    | .switch _, some _ => throw .misuse
    | .valued set, some value => return (← progress.setValue spec set value, .nothing)
    | .valued set, none => return (progress, .value spec set)

/-- Takes letters run together. The first that has a value takes the rest for it. -/
def takeLetters (progress : Progress) : List Char → Except Refusal (Progress × Waiting)
  | [] => .ok (progress, .nothing)
  | letter :: rest =>
    match specs.find? (·.letter == some letter) with
    | none => if letter == 'h' then .error .help else .error .misuse
    | some spec =>
      match spec.kind with
      | .switch set => do takeLetters (← progress.switchOn spec set) rest
      | .valued set =>
        match rest with
        | [] => .ok (progress, .value spec set)
        | '=' :: value => do
          return (← progress.setValue spec set (String.ofList value), .nothing)
        | value => do return (← progress.setValue spec set (String.ofList value), .nothing)

/-- Takes one argument, which is a value if one is waited for. -/
def takeArgument (progress : Progress) (waiting : Waiting) (argument : String) :
    Except Refusal (Progress × Waiting) :=
  match waiting with
  | .value spec set =>
    if canBeValue argument then do return (← progress.setValue spec set argument, .nothing)
    else .error .misuse
  | .nothing =>
    match argument.toList with
    | '-' :: '-' :: body => takeLong progress (String.ofList body)
    | '-' :: letter :: letters => takeLetters progress (letter :: letters)
    | _ => .error .misuse

/-- Takes arguments in order. Two dashes alone end them; there is nothing that could follow. -/
def takeArguments (progress : Progress) (waiting : Waiting) :
    List String → Except Refusal Options
  | [] =>
    match waiting with
    | .nothing => .ok progress.options
    | .value _ _ => .error .misuse
  | "--" :: rest =>
    match waiting, rest with
    | .nothing, [] => .ok progress.options
    | _, _ => .error .misuse
  | argument :: rest => do
    let (progress, waiting) ← takeArgument progress waiting argument
    takeArguments progress waiting rest

/-- The options that arguments ask for. -/
def parse (arguments : List String) : Except Refusal Options :=
  takeArguments {} .nothing arguments

/-- How an option is shown in the help: its letter, its name and what its value is called. -/
def OptionSpec.usage (spec : OptionSpec) : String :=
  let letter := match spec.letter with
    | some letter => "  -" ++ letter.toString ++ ", "
    | none => "      "
  let value := match spec.kind with
    | .switch _ => ""
    | .valued _ => " <" ++ (spec.long.map fun c => if c == '-' then '_' else c.toUpper) ++ ">"
  letter ++ "--" ++ spec.long ++ value

/-- Fills a text up with blanks. -/
def padTo (width : Nat) (text : String) : String :=
  text ++ String.ofList (List.replicate (width - text.length) ' ')

/-- The help text. -/
def helpText : String :=
  let lines := specs.map (fun spec => (spec.usage, spec.about)) ++ [("  -h, --help", "Print help")]
  let width := (lines.map fun line => line.1.length).foldl max 0 + 2
  "Run deterministic network simulation scenarios for evolved programs\n\n" ++
    "Usage: gpnet-sim [OPTIONS]\n\nOptions:\n" ++
    String.join (lines.map fun line => padTo width line.1 ++ line.2 ++ "\n")

end Lockstep.CommandLine
