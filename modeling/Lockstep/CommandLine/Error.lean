import Lockstep.Network.Config

/-!
Errors of the tools about the network.
-/
namespace Lockstep

/-- Why a tool could not do its work. -/
inductive ToolError where
  | config (error : ConfigError)
  /-- A file could not be read or written. The reason is the system's. -/
  | file (reason : String)
  /-- A text is not the JSON document it should be. -/
  | json
  /-- A worker of a batch stopped without a result. -/
  | worker (reason : String)
  | unknownScenario (name : String)
  deriving DecidableEq

/-- The wording of an error. -/
def ToolError.message : ToolError → String
  | .config error => "invalid network configuration: " ++ error.message
  | .file reason => "I/O error: " ++ reason
  | .json => "JSON error: not the document expected here"
  | .worker reason => "batch worker failed: " ++ reason
  | .unknownScenario name => "unknown scenario: " ++ name

/-- The wording for a name that was given for a scenario and is none. -/
def unknownScenarioText (name : String) : String :=
  "Unknown scenario: " ++ name

/-- A reason the system gives: what it says and the number it has for it. -/
def systemReason (details : String) (code : Nat) : String :=
  details ++ " (os error " ++ toString code ++ ")"

/-- The reason for a file that is not there. -/
def noSuchFile : String :=
  systemReason "No such file or directory" 2

/-- The reason for a path that goes on after a file. -/
def notDirectory : String :=
  systemReason "Not a directory" 20

/-- The reason for a directory where a file is to be written. -/
def isDirectory : String :=
  systemReason "Is a directory" 21

/-- The reason for a name that no file can have, or a path that none can. -/
def nameTooLong : String :=
  systemReason "File name too long" 36

end Lockstep
