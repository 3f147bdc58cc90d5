import GoldenTree.Case.Files
import GoldenTree.Disk.FileSystem
import GoldenTree.Golden.Compare

/-! Bringing a golden file and the text of a fresh tree to agreement: the file is written if there
is none, overwritten if that is allowed, and otherwise the two are compared. -/
namespace GoldenTree.Golden

open Disk

/-- A golden file that differs from the fresh text. -/
structure Mismatch where
  message : String
  path : Path
  expected : String
  actual : String
  difference : Difference
  /-- Where the fresh text was dumped. -/
  dump? : Option Path
  deriving Repr, DecidableEq

def Mismatch.render (m : Mismatch) : String :=
  String.join [m.message, ": ", m.path.text, "\n", m.difference.render]

/-- How golden file and fresh text came to agree. -/
inductive Agreement where
  | matched
  | created
  | regenerated
  deriving Repr, DecidableEq

inductive ReconcileError where
  | mismatch (mismatch : Mismatch)
  | io (path : Path) (cause : IoError)
  deriving Repr, DecidableEq

def ReconcileError.message : ReconcileError → String
  | mismatch m => m.render
  | io path cause => String.join ["IO error on golden file ", path.text, ": ", cause.message]

/-- Whether a differing text is dumped, and what is said about the difference. -/
structure Reconciler where
  dumpsActual : Bool
  message : String
  deriving Repr, DecidableEq

namespace Reconciler

def standard : Reconciler := ⟨true, "Expected and actual parse trees are not equal"⟩

/-- Makes the directories that lead to a file. -/
def makeRoom (fs : FileSystem) (path : Path) : Except IoError Unit × FileSystem :=
  match path.parent? with
  | some parent => fs.makeDirectories parent
  | none => (.ok (), fs)

/-- Writes a file for which there may be no directory yet. -/
def install (fs : FileSystem) (path : Path) (text : String) :
    Except ReconcileError Unit × FileSystem :=
  match makeRoom fs path with
  | (.error cause, fs) => (.error (.io path cause), fs)
  | (.ok (), fs) =>
    match fs.writeText path text with
    | .error cause => (.error (.io path cause), fs)
    | .ok fs => (.ok (), fs)

/-- Reports a difference, after dumping the fresh text in normal form if that is asked for. -/
def refuse (r : Reconciler) (fs : FileSystem) (golden : Path) (expected actual : String)
    (difference : Difference) : ReconcileError × FileSystem :=
  let message := r.message ++ ": " ++ golden.fileName?.getD ""
  let mismatch := fun dump? =>
    ReconcileError.mismatch ⟨message, golden, expected, actual, difference, dump?⟩
  if r.dumpsActual then
    let dump := CaseFiles.actualDump golden
    match install fs dump (normalize actual) with
    | (.error e, fs) => (e, fs)
    | (.ok (), fs) => (mismatch (some dump), fs)
  else (mismatch none, fs)

/-- Reconciles a golden file with a fresh text. What would be written is compared, that is the
normal form of the fresh text. -/
def reconcile (r : Reconciler) (fs : FileSystem) (golden : Path) (actual : String)
    (regenerate : Bool) : Except ReconcileError Agreement × FileSystem :=
  if fs.pathExists golden then
    match fs.readText golden with
    | .error cause => (.error (.io golden cause), fs)
    | .ok expected =>
      match compare? expected (normalize actual) with
      | none => (.ok .matched, fs)
      | some difference =>
        if regenerate then
          let (written, fs) := install fs golden (normalize actual)
          (written.map fun _ => .regenerated, fs)
        else
          let (e, fs) := r.refuse fs golden expected actual difference
          (.error e, fs)
  else
    let (written, fs) := install fs golden (normalize actual)
    (written.map fun _ => .created, fs)

end Reconciler

end GoldenTree.Golden
