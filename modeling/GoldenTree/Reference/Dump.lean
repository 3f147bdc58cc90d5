import GoldenTree.Reference.Line
import GoldenTree.Text.LineBreak
import GoldenTree.Text.Position
import GoldenTree.Token
import GoldenTree.Tree.Outline

/-! Reference dumps as trees, and their error elements. A dump records no positions, so an error
element stands at the end of the token and white-space text before it. -/
namespace GoldenTree.Reference

open Text

/-- The rule above all lines of a dump. -/
def root : Element := .rule "kotlinFile"

/-- The tree of a dump, whose first line is dropped. -/
def parse (dump : String) : Tree Element :=
  .ofOutline root (((lines dump.toList).drop 1).filterMap classify?)

/-- The source text that an element stands for. -/
def Element.source : Element → List Char
  | .token _ text => text.toList
  | .whitespace content => unescapeNewlines content.toList
  | _ => []

/-- An error element and where it stands. -/
structure ErrorElement where
  description : String
  position : Position
  deriving Repr, DecidableEq

def ErrorElement.render (e : ErrorElement) : String := located e.position e.description

/-- The error element of a node that comes after `consumed`. -/
def Element.errorAt (consumed : List Char) : Element → List ErrorElement
  | .error description => [⟨description, .ofEnd consumed⟩]
  | _ => []

mutual

/-- The error elements of a tree that comes after `consumed`, and the text up to its end. -/
def collect (consumed : List Char) : Tree Element → List ErrorElement × List Char
  | .node element children =>
    let (errors, rest) := collectForest (consumed ++ element.source) children
    (element.errorAt consumed ++ errors, rest)

def collectForest (consumed : List Char) : List (Tree Element) → List ErrorElement × List Char
  | [] => ([], consumed)
  | t :: ts =>
    let (first, consumed) := collect consumed t
    let (others, consumed) := collectForest consumed ts
    (first ++ others, consumed)

end

/-- The error elements below the root of a dump in the order of its lines. -/
def errorElements (t : Tree Element) : List ErrorElement := (collectForest [] t.children).1

def Element.isError : Element → Bool
  | .error _ => true
  | _ => false

mutual

/-- Whether a node below the root is an error element. -/
def hasError : Tree Element → Bool
  | .node _ children => forestHasError children

def forestHasError : List (Tree Element) → Bool
  | [] => false
  | t :: ts => t.label.isError || hasError t || forestHasError ts

end

end GoldenTree.Reference
