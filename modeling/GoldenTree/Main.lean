import GoldenTree.Text.Timestamp
import GoldenTree.Tool.Migrate
import GoldenTree.Tool.Triage

/-! The command line. The first argument names a tool and the others are its own. What lies below
its directory is read, the tool works on that, and what it changed is written back. -/
namespace GoldenTree.CommandLine

open Disk Tool

/-- What was read from the disk, with the times at which the files were last written. -/
structure Contents where
  fs : FileSystem
  written : List (Place × String)

def Contents.none : Contents := ⟨.empty, []⟩

/-- When the file at a path was last written. -/
def Contents.timeOf (c : Contents) (path : Path) : String :=
  match c.fs.locate path with
  | .ok place => (c.written.lookup place).getD "unknown"
  | .error _ => "unknown"

/-- Adds an entry of a directory, and everything below it. -/
partial def read (c : Contents) (place : Place) (entry : IO.FS.DirEntry) : IO Contents := do
  let place := place ++ [entry.fileName]
  if ← entry.path.isDir then
    let inside ← entry.path.readDir
    inside.foldlM (fun c e => read c place e) { c with fs := c.fs.put place .directory }
  else
    let bytes ← IO.FS.readBinFile entry.path
    let modified := (← entry.path.metadata).modified
    return ⟨c.fs.put place (.file bytes),
      (place, Text.timestamp modified.sec.toNat) :: c.written⟩

/-- Everything below a directory that lies below the working directory, and nothing if it does
not exist. -/
def readDirectory (dir : Path) : IO Contents := do
  let names := dir.components.filterMap fun
    | .name n => some n
    | _ => none
  let root ← IO.currentDir
  match names.getLast? with
  | none => (← root.readDir).foldlM (fun c e => read c [] e) Contents.none
  | some last =>
    let parents := names.dropLast
    let parent := parents.foldl (fun path (name : String) => path / name) root
    let entry : IO.FS.DirEntry := ⟨parent, last⟩
    if ← entry.path.pathExists then
      let above := (List.range parents.length).map fun i => parents.take (i + 1)
      let fs := above.foldl (fun fs place => fs.put place .directory) FileSystem.empty
      read { Contents.none with fs } parents entry
    else return .none

/-- Makes the disk hold what a tool left instead of what was read. -/
def writeBack (before after : FileSystem) : IO Unit := do
  for (place, _) in before.entries do
    if after.get? place = none then IO.FS.removeFile ("/".intercalate place)
  for (place, entry) in after.entries do
    match entry with
    | .file bytes =>
      if before.get? place ≠ some entry then IO.FS.writeBinFile ("/".intercalate place) bytes
    | .directory => pure ()

/-- A tool by its name: the options it understands and what it does. -/
def tool? (name : String) :
    Option (Options × (Contents → List String → Result × FileSystem)) :=
  match name with
  | "migrate-golden" => some (migrateOptions, fun c args => migrate c.fs args)
  | "triage-failures" => some (triageOptions, fun c args => triage c.timeOf c.fs args)
  | _ => none

def usageText : String :=
  String.join ["usage: migrate-golden DIR --rule RULE [--dry-run]\n",
    "       triage-failures DIR [--clean]\n",
    "rules: ", ", ".intercalate (Migration.Rule.all.map Migration.Rule.name), "\n"]

/-- Runs a tool on the files of the disk. -/
def runTool (options : Options) (run : Contents → List String → Result × FileSystem)
    (args : List String) : IO UInt32 := do
  let contents ← match (Arguments.read options args).bind Arguments.dir with
    | some dir => readDirectory ⟨dir⟩
    | none => pure Contents.none
  let (result, fs) := run contents args
  writeBack contents.fs fs
  IO.print result.stdout
  IO.eprint (if result.code = 2 then usageText else result.stderr)
  return result.code.toUInt32

end GoldenTree.CommandLine

def main (args : List String) : IO UInt32 := do
  match args with
  | [] => IO.eprint GoldenTree.CommandLine.usageText; return 2
  | name :: rest =>
    match GoldenTree.CommandLine.tool? name with
    | some (options, run) => GoldenTree.CommandLine.runTool options run rest
    | none => IO.eprint GoldenTree.CommandLine.usageText; return 2
