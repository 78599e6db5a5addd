import Lockstep.CommandLine.Session

/-!
The command line program. It carries a session out on the system.
-/
namespace Lockstep.CommandLine

/-- The reason the system gives, in words. -/
def reasonOfError : IO.Error → String
  | .noFileOrDirectory _ code details => systemReason details code.toNat
  | .permissionDenied _ code details => systemReason details code.toNat
  | .inappropriateType _ code details => systemReason details code.toNat
  | .invalidArgument _ code details => systemReason details code.toNat
  | .resourceExhausted _ code details => systemReason details code.toNat
  | .resourceBusy code details => systemReason details code.toNat
  | .otherError code details => systemReason details code.toNat
  | error => toString error

/-- Reads a file. -/
def readContent (path : String) : IO FileContent := do
  match ← (IO.FS.Handle.mk path .read).toBaseIO with
  | .error error => return .closed (reasonOfError error)
  | .ok file =>
    match ← file.readBinToEnd.toBaseIO with
    | .error _ => return .unreadable
    | .ok bytes => return (String.fromUTF8? bytes).elim .unreadable .text

/-- Writes a file. What the system refuses late is known once the file is flushed. -/
def writeContent (path content : String) : IO (Except String Unit) := do
  let written : IO Unit := do
    let file ← IO.FS.Handle.mk path .write
    file.putStr content
    file.flush
  match ← written.toBaseIO with
  | .ok _ => return .ok ()
  | .error error => return .error (reasonOfError error)

/-- Says a line. -/
def Line.print (line : Line) : IO Unit := do
  match line with
  | .output _ => do
    let stdout ← IO.getStdout
    stdout.putStr line.text
    stdout.flush
  | .complaint _ => IO.eprintln line.text
  | .log level _ => IO.eprintln (level.name ++ " " ++ line.text)

/-- A word by chance. -/
def chanceWord : IO UInt64 := do
  let bytes ← IO.getRandomBytes 8
  return bytes.foldl (fun word byte => (word <<< 8) ||| byte.toUInt64) 0

/-- Carries a session out and answers its code. -/
def Session.perform : Session → IO UInt32
  | .exit code => return code.toUInt32
  | .say line next => do
    line.print
    (next ()).perform
  | .readFile path next => do (next (← readContent path)).perform
  | .writeFile path content next => do (next (← writeContent path content)).perform
  | .chance next => do (next (← chanceWord)).perform

end Lockstep.CommandLine

/-- Runs scenarios as the arguments ask for. -/
def main (arguments : List String) : IO UInt32 :=
  (Lockstep.CommandLine.start arguments).perform
