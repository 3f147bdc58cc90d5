import GoldenTree.Migration.Audit
import GoldenTree.Tool.Arguments
import GoldenTree.Tool.Result

/-! The tool that makes dumps the new golden files after a change of the grammar. -/
namespace GoldenTree.Tool

open Disk Migration

def migrateOptions : Options := ⟨some ("rule", 'r'), "dry-run"⟩

def decisionLines (d : Decision) : List String :=
  ["Processing: " ++ d.actual.text, "Original: " ++ d.golden.text,
   "Diffs compatible? " ++ toString d.isCompatible ++ " (" ++ toString d.differences ++
     " differences)"] ++
    d.incompatible.map fun (left, right) => "    " ++ left ++ "  =>  " ++ right

def migrateSummary (a : Audit) (decisions : List Decision) : String :=
  toString (decisions.countP Decision.isCompatible) ++ " of " ++ toString decisions.length ++
    " golden files " ++ (if a.dryRun then "would be migrated" else "migrated") ++ " by " ++
    a.rule.name

def migrateOutput (a : Audit) (decisions : List Decision) : String :=
  String.join ((decisions.flatMap decisionLines ++ [migrateSummary a decisions]).map (· ++ "\n"))

def migrateDir (a : Audit) (fs : FileSystem) (dir : Path) : Result × FileSystem :=
  match a.run fs dir with
  | (.ok decisions, fs) => (.success (migrateOutput a decisions), fs)
  | (.error e, fs) => (.failure "" ("auditing " ++ dir.text) e.causes, fs)

def migrate (fs : FileSystem) (args : List String) : Result × FileSystem :=
  match Arguments.read migrateOptions args with
  | some ⟨some dir, some rule, dryRun⟩ =>
    match Migration.Rule.parse rule with
    | .ok rule => migrateDir ⟨rule, dryRun⟩ fs ⟨dir⟩
    | .error _ => (.usage, fs)
  | _ => (.usage, fs)

end GoldenTree.Tool
