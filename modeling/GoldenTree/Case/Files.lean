import GoldenTree.Disk.Path

/-! The files of a case. All are named after the source and stand beside it. -/
namespace GoldenTree

open Disk

/-- The source, its golden file, its reference dump and the sentinel of a failed verdict. -/
structure CaseFiles where
  source : Path
  golden : Path
  reference : Path
  failed : Path
  deriving Repr, DecidableEq

namespace CaseFiles

def goldenSuffix : String := ".antlrtree.txt"

def referenceSuffix : String := ".txt"

def failedSuffix : String := ".failed"

/-- The suffix of the dump of a tree that differs from its golden file. -/
def actualSuffix : String := ".actual"

/-- The files of a source; a path without a file name has none. -/
def ofSource? (source : Path) : Option CaseFiles :=
  source.stem?.map fun stem =>
    let beside := fun suffix => source.withFileName (stem ++ suffix)
    ⟨source, beside goldenSuffix, beside referenceSuffix, beside failedSuffix⟩

/-- Where the tree is dumped that differs from a golden file. -/
def actualDump (golden : Path) : Path := golden.addSuffix actualSuffix

end CaseFiles

/-- The id of a case: the components of its relative path, joined by dollar signs. -/
def caseId (relative : Path) : String :=
  "$".intercalate (relative.components.map Component.text)

/-- The path that an id stands for. -/
def casePath (id : String) : Path :=
  .ofParts ((Text.splitAt '$' id.toList).map String.ofList)

end GoldenTree
