import GoldenTree.ParseTree.Basic
import GoldenTree.Tree.Dump

/-! The text of a parse tree. A header line stands in for the root, and what is below the root
follows it, two spaces a level, one node a line. -/
namespace GoldenTree.ParseTree

/-- Every line, the last one too, ends with a newline. -/
def render (t : ParseTree) (header : String) : String :=
  String.ofList (header.toList ++ ['\n'] ++
    (Tree.flatForest 1 (forestLabels t.children)).flatMap (Dump.line 0))

end GoldenTree.ParseTree
