import GoldenTree.Text.Blank
import GoldenTree.Text.Lines
import GoldenTree.Tree.Outline

/-! Trees of lines: reading any indented text as a tree, and writing it with two spaces a
level. -/
namespace GoldenTree

open Text

/-- A tree whose labels are lines of text. -/
abbrev Dump := Tree String

namespace Dump

/-- The label above the top-level lines. -/
def rootLabel : String := "<root>"

/-- The depth of a line is the number of blank characters before its text. -/
def entry (line : List Char) : Nat × String :=
  ((margin line).length, String.ofList (trim line))

def ofLines (lines : List (List Char)) : Dump := .ofOutline rootLabel (lines.map entry)

def parse (text : String) : Dump := ofLines (lines text.toList)

/-- One line of a dump. -/
def line (indent : Nat) (entry : Nat × String) : List Char :=
  List.replicate (indent + 2 * entry.1) ' ' ++ entry.2.toList ++ ['\n']

/-- The tree with its root indented by `indent`. -/
def render (indent : Nat) (t : Dump) : String :=
  String.ofList ((t.flat 0).flatMap (line indent))

/-- The trees below the root, without indentation. -/
def renderChildren (t : Dump) : String :=
  String.ofList ((Tree.flatForest 0 t.children).flatMap (line 0))

end Dump

end GoldenTree
