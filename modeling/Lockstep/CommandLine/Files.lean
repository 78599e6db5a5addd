import Lockstep.CommandLine.Error

/-!
Files as a session finds them: a tree of directories, in which paths are followed part by part.

`Files.enter` follows a path that leads to something. `Files.read` opens what is there, and
`Files.write` also makes the last part of a path, but no directories. There are no links.
-/
namespace Lockstep.CommandLine

/-- What comes of reading a file. -/
inductive FileContent where
  | text (content : String)
  /-- The file cannot be opened, for a reason that the system gives. -/
  | closed (reason : String)
  /-- The file can be opened but holds no text. -/
  | unreadable
  deriving DecidableEq

/-- What stands at a place. -/
inductive FileEntry where
  | directory
  | file (content : String)
  /-- Something that takes what is written and holds nothing, or refuses it for a reason. -/
  | device (refusal : Option String)
  deriving DecidableEq

/-- The names that lead to a place from the root, the innermost first. -/
abbrev Place := List String

/-- What stands where, and the place at which paths begin that do not begin at the root. -/
structure Files where
  entries : List (Place × FileEntry)
  home : Place

/-- The length from which on the system takes no path, in bytes. -/
def pathLimit : Nat := 4096

/-- The length above which no file has a name, in bytes. -/
def nameLimit : Nat := 255

namespace Files

/-- What stands at a place. The root is a directory. -/
def entry? (files : Files) (place : Place) : Option FileEntry :=
  if place = [] then some .directory
  else (files.entries.find? fun entry => entry.1 == place).map (·.2)

/-- Puts a file at a place, where no directory is. -/
def put (files : Files) (place : Place) (content : String) : Files :=
  { files with
    entries := (place, .file content) :: files.entries.filter fun entry => entry.1 != place }

/-- Follows the parts of a path from a place. Every part, also one that stays at the place, needs
a directory to start from. -/
def enter (files : Files) : Place → List String → Except String Place
  | place, [] => .ok place
  | place, part :: rest =>
    match files.entry? place with
    | some .directory =>
      if part = "" ∨ part = "." then files.enter place rest
      else if part = ".." then files.enter place.tail rest
      else if nameLimit < part.utf8ByteSize then .error nameTooLong
      else if files.entry? (part :: place) = none then .error noSuchFile
      else files.enter (part :: place) rest
    | _ => .error notDirectory

/-- The place a path begins at and its parts. A path must not be empty or too long. -/
def partsOf (files : Files) (path : String) : Except String (Place × List String) :=
  if path = "" then .error noSuchFile
  else if pathLimit ≤ path.utf8ByteSize then .error nameTooLong
  else .ok (if path.startsWith "/" then [] else files.home, path.splitOn "/")

/-- Reads the file a path leads to. A directory can be opened, too, but holds no text. -/
def read (files : Files) (path : String) : FileContent :=
  match (do
    let (start, parts) ← files.partsOf path
    files.enter start parts) with
  | .error reason => .closed reason
  | .ok place =>
    match files.entry? place with
    | some (.file content) => .text content
    | _ => .unreadable

/-- Writes to a name in a directory, which may be new there. -/
def writeAt (files : Files) (directory : Place) (name content : String) : Except String Files :=
  if nameLimit < name.utf8ByteSize then .error nameTooLong
  else
    match files.entry? (name :: directory) with
    | some .directory => .error isDirectory
    | some (.device (some reason)) => .error reason
    | some (.device none) => .ok files
    | _ => .ok (files.put (name :: directory) content)

/-- Writes the file a path leads to. A path that ends in a slash or in dots stands for a directory,
whether it is there or not. -/
def write (files : Files) (path content : String) : Except String Files := do
  let (start, parts) ← files.partsOf path
  let named := parts.reverse.dropWhile (· == "")
  match named with
  | [] => .error isDirectory
  | name :: outer =>
    if name = "." ∨ name = ".." then
      let _ ← files.enter start parts
      .error isDirectory
    else
      let directory ← files.enter start (outer.reverse ++ ["."])
      if named.length < parts.length then .error isDirectory
      else files.writeAt directory name content

end Files

end Lockstep.CommandLine
