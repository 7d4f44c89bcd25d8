import QueryLint.Command.Execution
import QueryLint.Command.Paths
import Std.Time.Format

/-!
# The command line tool

The tool copies the part of the file system that its command line leads to,
executes the command line on the copy, prints the output, and writes back what
has changed.
-/

namespace QueryLint

def Place.path (place : Place) : String :=
  "/" ++ "/".intercalate place

/-- Why the system would not open a file. -/
def FileError.ofError : IO.Error → FileError
  | .permissionDenied _ number _ => .system number.toNat
  | .hardwareFault number _ => .system number.toNat
  | error => .refused error.toString

/-- What stands at a place; what the system does not tell of is not there. -/
def nodeAt (place : Place) : IO (Option Node) := do
  -- a path from the root replaces the folder in front of it
  let path := (← IO.currentDir) / Place.path place
  try
    match (← path.symlinkMetadata).type with
    | .dir => return some .folder
    | .file =>
        try
          return some (.file (← IO.FS.readBinFile path).toList)
        catch error => return some (.sealed (.ofError error))
    | .symlink => return some (.link (← IO.FS.realPath path).toString)
    | .other => return some (.device (place == ["dev", "full"]))
  catch _ => return none

/-- Copies what stands on the way along names from a place. -/
def FileTree.copyAlong (tree : FileTree) :
    (links : Nat) → (place : Place) → List String → IO FileTree
  | _, _, [] => return tree
  | links, place, name :: rest => do
      if name = "" || name = "." then tree.copyAlong links place rest
      else if name = ".." then tree.copyAlong links place.dropLast rest
      else
        match ← nodeAt (place ++ [name]) with
        | none => return tree
        | some (.link target) =>
            match links with
            | 0 => return tree
            | links + 1 =>
                (tree.put (place ++ [name]) (.link target)).copyAlong links []
                  (FileTree.names target ++ rest)
        | some node =>
            (tree.put (place ++ [name]) node).copyAlong links
              (place ++ [name]) rest
termination_by links _ rest => (links, rest.length)

def FileTree.copyPath (tree : FileTree) (path : String) : IO FileTree :=
  tree.copyAlong FileTree.maxLinks []
    (FileTree.origin path tree.current ++ FileTree.names path)

def FileTree.copyPaths (tree : FileTree) (paths : List String) : IO FileTree :=
  paths.foldlM FileTree.copyPath tree

def emptyCopy : IO FileTree := do
  let current := (← IO.currentDir).toString
  return {
    entries := []
    current := FileTree.names current
    home := ← IO.getEnv "HOME" }

/-- A copy of the part of the file system that a command line leads to. -/
def copyFor (words : List String) : IO FileTree := do
  let files ← emptyCopy
  match Options.ofWords words with
  | .error _ => return files
  | .ok options =>
      let files ← files.copyPaths (options.configPaths files)
      files.copyPaths (options.normalise.load files).options.workPaths

/-- Writes back the files and folders that have changed. -/
def writeBack (before after : FileTree) : IO Unit :=
  after.entries.reverse.forM fun (place, node) => do
    if before.node? place ≠ some node then
      match node with
      | .file bytes => IO.FS.writeBinFile (Place.path place) bytes.toByteArray
      | .folder => IO.FS.createDirAll (Place.path place)
      | .sealed _ | .link _ | .device _ => return ()

/-- The number of processors that the system tells of. -/
def countProcessors : IO Nat := do
  try
    let lines ← IO.FS.lines "/proc/cpuinfo"
    return max 1 (lines.toList.countP fun line => line.startsWith "processor")
  catch _ => return 1

/-- The moment at which it is asked for. -/
def currentMoment : IO Log.Moment := do
  let now := Std.Time.DateTime.ofTimestamp (← Std.Time.Timestamp.now) .UTC
  return ⟨now.format "uuuu-MM-dd", now.format "HH:mm:ss.SSS"⟩

end QueryLint

open QueryLint

def main (words : List String) : IO UInt32 := do
  let before ← IO.monoNanosNow
  let files ← copyFor words
  let isTerminal ← (← IO.getStdout).isTty
  let surroundings : Surroundings :=
    { build := ⟨"unknown", "unknown"⟩
      processors := ← countProcessors
      isTerminal := isTerminal
      escapes := isTerminal
      before := before
      after := ← IO.monoNanosNow
      now := ← currentMoment }
  let execution := execute words surroundings .working files
  IO.print execution.standardOutput
  IO.eprint execution.standardError
  writeBack files execution.files
  return UInt32.ofNat execution.exitCode
