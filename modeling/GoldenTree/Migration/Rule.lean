import GoldenTree.Text.Quoted
import GoldenTree.Tree.Dump

/-! Migration rules. Each knows the differences that one change of the grammar brings to dumps. -/
namespace GoldenTree.Migration

inductive Rule where
  /-- Callable references and call suffixes have another structure, and function-value parameters
  another name. -/
  | callableReferenceCallSuffix
  /-- The identifier `value` is a token of its own. -/
  | identifierToValue
  deriving Repr, DecidableEq

namespace Rule

def all : List Rule := [callableReferenceCallSuffix, identifierToValue]

def name : Rule → String
  | callableReferenceCallSuffix => "callable-reference-call-suffix"
  | identifierToValue => "identifier-to-value"

/-- No rule has this name. -/
structure Unknown where
  name : String
  deriving Repr, DecidableEq

def Unknown.message (e : Unknown) : String :=
  String.join ["unknown migration rule ", Text.quoted e.name, ", expected one of: ",
    ", ".intercalate (Rule.all.map Rule.name)]

def parse (text : String) : Except Unknown Rule :=
  match all.find? (·.name = text) with
  | some r => .ok r
  | none => .error ⟨text⟩

/-- The label of a node, if there is one. -/
def labelled (node : Option Dump) (label : String) : Bool := node.any (·.label == label)

/-- Whether the rule explains a pair of nodes that differ, the old one first. -/
def explains (r : Rule) (old new : Dump) : Bool :=
  match r with
  | callableReferenceCallSuffix =>
    let grandchild := old.children.head?.bind (·.children.head?)
    (old.label == "postfixUnaryExpression" && labelled grandchild "callableReference") ||
      (old.label == "genericCallLikeComparison" && labelled old.children[1]? "callSuffix") ||
      (old.label == "parameterWithOptionalType" &&
        new.label == "functionValueParameterWithOptionalType")
  | identifierToValue => old.label == "Identifier(\"value\")" && new.label == "VALUE(\"value\")"

end Rule

end GoldenTree.Migration
