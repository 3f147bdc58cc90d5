import GoldenTree.Case.Files
import GoldenTree.Digest.Md5
import GoldenTree.Disk.Walk

/-! Finding and loading cases below a base directory. -/
namespace GoldenTree

open Disk

inductive FixtureError where
  | notFound (path : Path)
  | unreadable (path : Path) (cause : IoError)
  | unwalkable (path : Path) (cause : WalkError)
  | notUtf8 (path : Path)
  | noFileName (path : Path)
  | stemCollision (first second : Path)
  deriving Repr, DecidableEq

def FixtureError.message : FixtureError → String
  | notFound path => String.join ["Fixture not found: ", path.text]
  | unreadable path cause => String.join ["IO error reading ", path.text, ": ", cause.message]
  | unwalkable path cause => String.join ["IO error reading ", path.text, ": ", cause.message]
  | notUtf8 path => String.join ["Fixture ", path.text, " is not valid UTF-8"]
  | noFileName path => String.join ["Fixture path ", path.text, " has no file name"]
  | stemCollision first second =>
    String.join ["Sources ", first.text, " and ", second.text, " share the same file stem"]

/-- What a case is judged by beside its golden file. -/
inductive CaseKind where
  /-- The marker of the golden file alone. -/
  | diagnostics
  /-- A reference dump with this text. -/
  | referenceTree (dump : String)
  deriving Repr, DecidableEq

def CaseKind.name : CaseKind → String
  | diagnostics => "diagnostics"
  | referenceTree _ => "reference-tree"

/-- A loaded case. -/
structure Case where
  id : String
  /-- The name of the source as golden headers show it. -/
  fileName : String
  files : CaseFiles
  source : String
  hash : String
  kind : CaseKind
  deriving Repr, DecidableEq

/-- The digest of a source. -/
def sourceHash (bytes : ByteArray) : String := Digest.hex (Digest.md5 bytes.toList)

/-- The directory below which the cases are. -/
structure Fixtures where
  base : Path
  deriving Repr, DecidableEq

namespace Fixtures

def standard : Fixtures := ⟨⟨"testData"⟩⟩

def filesOf (source : Path) : Except FixtureError CaseFiles :=
  match CaseFiles.ofSource? source with
  | some files => .ok files
  | none => .error (.noFileName source)

/-- The files of the case whose source has this path below the base. -/
def files (f : Fixtures) (relative : Path) : Except FixtureError CaseFiles :=
  filesOf (f.base.join relative)

def readBytes (fs : FileSystem) (path : Path) : Except FixtureError ByteArray :=
  if fs.pathExists path then (fs.read path).mapError (.unreadable path)
  else .error (.notFound path)

def asText (path : Path) (bytes : ByteArray) : Except FixtureError String :=
  match Text.ofUtf8? bytes with
  | some text => .ok text
  | none => .error (.notUtf8 path)

def loadKind (fs : FileSystem) (files : CaseFiles) : Except FixtureError CaseKind :=
  if fs.isFile files.reference then do
    let bytes ← readBytes fs files.reference
    return .referenceTree (← asText files.reference bytes)
  else .ok .diagnostics

/-- Loads the source and, if there is one, the reference dump. -/
def load (f : Fixtures) (fs : FileSystem) (relative : Path) : Except FixtureError Case := do
  let files ← f.files relative
  let bytes ← readBytes fs files.source
  let source ← asText files.source bytes
  let kind ← loadKind fs files
  return ⟨caseId relative, files.source.fileName?.getD "", files, source, sourceHash bytes, kind⟩

def isSource (w : Walked) : Bool :=
  w.isFile && (w.path.extension? == some "kt" || w.path.extension? == some "kts")

/-- The path below the base. -/
def relativePath (w : Walked) : Path := ⟨"/".intercalate w.names⟩

/-- Checks that no two sources share a golden file; `seen` holds the sources before them with the
golden files they have. -/
def distinctSources (seen : List (List Component × Path)) :
    List Walked → Except FixtureError (List Path)
  | [] => .ok []
  | w :: ws => do
    let golden := (← filesOf w.path).golden.components
    match seen.lookup golden with
    | some first => .error (.stemCollision first (relativePath w))
    | none => return relativePath w :: (← distinctSources ((golden, relativePath w) :: seen) ws)

/-- The relative paths of all sources, in the order of a walk. -/
def list (f : Fixtures) (fs : FileSystem) : Except FixtureError (List Path) :=
  if fs.pathExists f.base then
    match fs.walk f.base with
    | .error cause => .error (.unwalkable f.base cause)
    | .ok walked => distinctSources [] (walked.filter isSource)
  else .error (.notFound f.base)

end Fixtures

end GoldenTree
