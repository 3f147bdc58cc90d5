import GoldenTree.Case.Files
import GoldenTree.Disk.Walk
import GoldenTree.Migration.Rule
import GoldenTree.Text.Affix
import GoldenTree.Tree.Difference

/-! Audits of dumps against their golden files. A dump whose every difference is explained by a
rule becomes the new golden file. -/
namespace GoldenTree.Migration

open Disk

inductive AuditError where
  | missingGolden (actual golden : Path)
  | io (path : Path) (cause : IoError)
  | walk (e : WalkError)
  deriving Repr, DecidableEq

namespace AuditError

def message : AuditError → String
  | missingGolden actual golden =>
    String.join ["no golden file ", golden.text, " for dump ", actual.text]
  | io path cause => String.join ["IO error on ", path.text, ": ", cause.message]
  | walk e => e.message

/-- The message, and the message of what is behind it. -/
def causes (e : AuditError) : List String :=
  e.message :: match e with
    | missingGolden _ _ => []
    | io _ cause => [cause.message]
    | walk e => [e.cause.message]

end AuditError

/-- What was decided on one dump. -/
structure Decision where
  actual : Path
  golden : Path
  /-- How many pairs of nodes differ. -/
  differences : Nat
  /-- The labels of those pairs that the rule does not explain. -/
  incompatible : List (String × String)
  /-- The golden file was overwritten with the dump. -/
  applied : Bool
  deriving Repr, DecidableEq

def Decision.isCompatible (d : Decision) : Bool := d.incompatible.isEmpty

/-- A rule to audit by; a dry run writes nothing. -/
structure Audit where
  rule : Rule
  dryRun : Bool
  deriving Repr, DecidableEq

/-- The golden file of a dump. -/
def goldenOf (actual : Path) : Path :=
  match Text.before? CaseFiles.actualSuffix.toList actual.chars with
  | some golden => ⟨String.ofList golden⟩
  | none => actual

def readDump (fs : FileSystem) (path : Path) : Except IoError Dump :=
  (fs.readText path).map Dump.parse

namespace Audit

/-- The decision on a dump with the given trees, before anything is written. -/
def decide (a : Audit) (actual : Path) (old new : Dump) : Decision :=
  let differences := old.differences new
  let unexplained := differences.filter fun (left, right) => !a.rule.explains left right
  { actual, golden := goldenOf actual, differences := differences.length
    incompatible := unexplained.map fun (left, right) => (left.label, right.label)
    applied := unexplained.isEmpty && !a.dryRun }

/-- Audits one dump. -/
def auditFile (a : Audit) (fs : FileSystem) (actual : Path) :
    Except AuditError (Decision × FileSystem) := do
  let golden := goldenOf actual
  if !fs.isFile golden then throw (.missingGolden actual golden)
  let old ← (readDump fs golden).mapError (.io golden)
  let bytes ← (fs.read actual).mapError (.io actual)
  let decision := a.decide actual old (Dump.parse (Text.ofUtf8Lossy bytes))
  if decision.applied then
    let fs ← (fs.write golden bytes).mapError (.io golden)
    return (decision, fs)
  else return (decision, fs)

/-- Goes on with `others` behind a decision; an error ends the audit. -/
def followedBy (fs : FileSystem)
    (others : FileSystem → Except AuditError (List Decision) × FileSystem) :
    Except AuditError (Decision × FileSystem) → Except AuditError (List Decision) × FileSystem
  | .error e => (.error e, fs)
  | .ok (decision, fs) =>
    let (decisions, fs) := others fs
    (decisions.map (decision :: ·), fs)

/-- Audits dumps one after the other up to the first error. -/
def auditAll (a : Audit) : List Path → FileSystem → Except AuditError (List Decision) × FileSystem
  | [], fs => (.ok [], fs)
  | actual :: rest, fs => followedBy fs (a.auditAll rest) (a.auditFile fs actual)

/-- Whether an entry is a file whose name ends in the suffix. -/
def hasSuffix (suffix : String) (w : Walked) : Bool :=
  w.isFile && suffix.toList.isSuffixOf w.fileName.toList

/-- Audits all dumps below a directory in the order of a walk. -/
def run (a : Audit) (fs : FileSystem) (dir : Path) :
    Except AuditError (List Decision) × FileSystem :=
  match fs.walk dir with
  | .error e => (.error (.walk e), fs)
  | .ok walked =>
    a.auditAll ((walked.filter (hasSuffix CaseFiles.actualSuffix)).map Walked.path) fs

end Audit

end GoldenTree.Migration
