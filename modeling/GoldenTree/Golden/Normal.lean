import GoldenTree.Text.Blank
import GoldenTree.Text.LineBreak
import GoldenTree.Text.Lines

/-! The normal form in which golden text is compared and written. Controls and spaces around the
whole text are dropped, every line break is a newline, no line ends in white space, and the text
ends with a newline. -/
namespace GoldenTree.Golden

open Text

/-- The text without the controls and spaces around it. -/
def trimEdges (s : List Char) : List Char := dropEndWhile isEdge (s.dropWhile isEdge)

/-- The text with a newline at its end, if it has none. -/
def endLine (s : List Char) : List Char := if s.getLast? = some '\n' then s else s ++ ['\n']

def normalChars (s : List Char) : List Char :=
  endLine (join ['\n'] ((splitAt '\n' (unifyBreaks (trimEdges s))).map trimEnd))

def normalize (s : String) : String := String.ofList (normalChars s.toList)

end GoldenTree.Golden
