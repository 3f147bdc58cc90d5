import GoldenTree.Migration.Audit
import GoldenTree.Tool.Arguments
import GoldenTree.Tool.Result

/-! The tool that lists the sentinels of failed verdicts, and removes them if asked to. -/
namespace GoldenTree.Tool

open Disk

def triageOptions : Options := ⟨none, "clean"⟩

/-- A sentinel behind the time at which it was written. -/
def sentinelLine (written : Path → String) (path : Path) : String :=
  written path ++ "  " ++ path.text ++ "\n"

def listing (written : Path → String) (sentinels : List Path) : String :=
  String.join (sentinels.map (sentinelLine written))

def triageSummary (clean : Bool) (sentinels : List Path) : String :=
  toString sentinels.length ++ " sentinels " ++ (if clean then "removed" else "found") ++ "\n"

/-- Removes files one after the other; one that cannot be removed ends it, with those before. -/
def removeAll (fs : FileSystem) :
    List Path → Except (Path × IoError × List Path) Unit × FileSystem
  | [] => (.ok (), fs)
  | path :: rest =>
    match fs.remove path with
    | .error cause => (.error (path, cause, [path]), fs)
    | .ok fs =>
      let (removed, fs) := removeAll fs rest
      (removed.mapError fun (failed, cause, listed) => (failed, cause, path :: listed), fs)

def triageDir (written : Path → String) (clean : Bool) (fs : FileSystem) (dir : Path) :
    Result × FileSystem :=
  match fs.walk dir with
  | .error e =>
    (.failure "" ("walking " ++ dir.text) [e.message, e.cause.message], fs)
  | .ok walked =>
    let sentinels :=
      (walked.filter (Migration.Audit.hasSuffix CaseFiles.failedSuffix)).map Walked.path
    let output := listing written sentinels ++ triageSummary clean sentinels
    if clean then
      match removeAll fs sentinels with
      | (.ok (), fs) => (.success output, fs)
      | (.error (path, cause, listed), fs) =>
        (.failure (listing written listed) ("removing " ++ path.text) [cause.message], fs)
    else (.success output, fs)

/-- Runs the tool; `written` tells when a file was last written. -/
def triage (written : Path → String) (fs : FileSystem) (args : List String) :
    Result × FileSystem :=
  match Arguments.read triageOptions args with
  | some ⟨some dir, _, clean⟩ => triageDir written clean fs ⟨dir⟩
  | _ => (.usage, fs)

end GoldenTree.Tool
