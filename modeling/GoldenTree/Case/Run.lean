import GoldenTree.Case.Load
import GoldenTree.Case.Outcome
import GoldenTree.Case.Verdict
import GoldenTree.Config
import GoldenTree.Golden.Header
import GoldenTree.ParseTree.Render
import GoldenTree.Recognition.Session
import GoldenTree.Reference.Dump

/-! Running a case. The golden header may end it at once; otherwise the source is parsed, the tree
reconciled with the golden file, and the errors judged. -/
namespace GoldenTree

open Disk Golden Recognition Reference

/-- Why a case reached no outcome. -/
inductive RunError where
  | fixture (e : FixtureError)
  | build (e : BuildError)
  | io (path : Path) (cause : IoError)
  deriving Repr, DecidableEq

def RunError.message : RunError → String
  | fixture e => e.message
  | build e => String.join ["could not build parse tree: ", e.message]
  | io path cause => String.join ["IO error on ", path.text, ": ", cause.message]

/-- The errors found in a source, and those of its reference dump once it was looked at. -/
structure Diagnostics where
  lexerErrors : List SyntaxError
  parserErrors : List SyntaxError
  referenceErrors : Option (List ErrorElement)
  deriving Repr, DecidableEq

namespace Diagnostics

def ofBuilt (b : BuiltTree) : Diagnostics := ⟨b.lexerErrors, b.parserErrors, none⟩

def hasErrors (d : Diagnostics) : Bool := !d.lexerErrors.isEmpty || !d.parserErrors.isEmpty

end Diagnostics

/-- A case with what is known of it so far. -/
structure CaseRun where
  case : Case
  header : Option Header
  diagnostics : Option Diagnostics
  outcome : Option Outcome
  deriving Repr, DecidableEq

/-- What running a case leaves behind. -/
structure Ran where
  result : Except RunError Outcome
  run : CaseRun
  session : Session
  fs : FileSystem

namespace CaseRun

def new (c : Case) : CaseRun := ⟨c, none, none, none⟩

/-- How a header ends its case before the source is parsed. -/
def endedBy (policy : StalePolicy) (hash : String) (header : Option Header) : Option SkipReason :=
  header.bind fun h =>
    if policy = .skip ∧ h.isStale hash then some (.staleHash h.hash hash)
    else if h.marker = some .mute then some .muted
    else none

/-- The header of the golden file; there is none without the file. -/
def readHeader (fs : FileSystem) (golden : Path) : Except IoError (Option Header) :=
  if fs.pathExists golden then Header.read fs golden else .ok none

/-- The text that a tree should have in its golden file. -/
def rendering (c : Case) (marker : Option Marker) (tree : ParseTree) : String :=
  tree.render (Header.render c.fileName c.hash marker)

/-- The error elements of the reference dump of a case. -/
def referenceErrors : CaseKind → Option (List ErrorElement)
  | .diagnostics => none
  | .referenceTree dump => some (errorElements (Reference.parse dump))

/-- Whether the errors of a source are as the marker and the reference dump want them. -/
def verdict (hasErrors : Bool) (marker : Option Marker) : Option (List ErrorElement) → Bool
  | none => diagnosticsVerdict hasErrors marker
  | some elements => referenceVerdict hasErrors (!elements.isEmpty) marker

/-- Judges the errors of a source; a verdict that fails leaves its sentinel. -/
def judge (c : Case) (marker : Option Marker) (built : BuiltTree) (fs : FileSystem) :
    Except RunError Outcome × FileSystem :=
  let elements := referenceErrors c.kind
  if verdict built.hasErrors marker elements then (.ok .pass, fs)
  else
    match fs.touch c.files.failed with
    | .error cause => (.error (.io c.files.failed cause), fs)
    | .ok fs =>
      (.ok (.fail (.verdict ⟨marker, built.lexerErrors.length, built.parserErrors.length,
        elements.map List.length⟩)), fs)

/-- Reconciles the tree of a case with its golden file and judges it if they agree. The flag tells
whether it was judged. -/
def settle (config : Config) (c : Case) (header : Option Header) (built : BuiltTree)
    (fs : FileSystem) : Except RunError Outcome × Bool × FileSystem :=
  let marker := header.bind Header.marker
  let regenerate := config.force || header.any (·.isStale c.hash)
  let reconciler := { Reconciler.standard with dumpsActual := config.dumpsActual }
  let (agreement, fs) :=
    reconciler.reconcile fs c.files.golden (rendering c marker built.tree) regenerate
  match agreement with
  | .ok .matched =>
    let (result, fs) := judge c marker built fs
    (result, true, fs)
  | .ok .created => (.ok (.skipped .goldenCreated), false, fs)
  | .ok .regenerated => (.ok (.skipped (.goldenRegenerated config.force)), false, fs)
  | .error (.mismatch m) => (.ok (.fail (.goldenMismatch m)), false, fs)
  | .error (.io path cause) => (.error (.io path cause), false, fs)

/-- Runs the case whether or not it is finished. -/
def execute (config : Config) (run : CaseRun) (session : Session) (fs : FileSystem) : Ran :=
  let c := run.case
  match readHeader fs c.files.golden with
  | .error cause => ⟨.error (.io c.files.golden cause), run, session, fs⟩
  | .ok header =>
    let run := { run with header }
    match endedBy config.policy c.hash header with
    | some reason => ⟨.ok (.skipped reason), run, session, fs⟩
    | none =>
      match session.parse c.source with
      | (.error e, session) => ⟨.error (.build e), run, session, fs⟩
      | (.ok built, session) =>
        let (result, judged, fs) := settle config c header built fs
        let diagnostics := { Diagnostics.ofBuilt built with
          referenceErrors := if judged then referenceErrors c.kind else none }
        ⟨result, { run with diagnostics := some diagnostics }, session, fs⟩

/-- Runs the case; a finished one keeps its outcome. -/
def perform (config : Config) (run : CaseRun) (session : Session) (fs : FileSystem) : Ran :=
  match run.outcome with
  | some outcome => ⟨.ok outcome, run, session, fs⟩
  | none =>
    let ran := execute config run session fs
    { ran with run := { ran.run with outcome := ran.result.toOption } }

end CaseRun

end GoldenTree
