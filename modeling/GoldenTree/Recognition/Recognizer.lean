import GoldenTree.ConcreteTree
import GoldenTree.Grammar.Lexer
import GoldenTree.Grammar.Parser

/-! A recognizer is a lexer and a parser with their rule table and vocabulary. -/
namespace GoldenTree.Recognition

open Grammar (Visit)

/-- What one parse yields: the tree, the errors in the order they were found, and the rule entries
in the order they were made. -/
structure Parse where
  tree : ConcreteTree
  errors : List SyntaxError
  visits : List Visit

structure Recognizer where
  ruleNames : List String
  /-- The name of a token type, if the vocabulary has one. -/
  symbolName? : Int → Option String
  tokenize : String → List Token × List SyntaxError
  /-- Parses a token list from the rule with the given index. -/
  parse : List Token → Nat → Parse

/-- The index of the first rule of that name. -/
def Recognizer.ruleIndex? (r : Recognizer) (name : String) : Option Nat :=
  r.ruleNames.findIdx? (· == name)

end GoldenTree.Recognition

namespace GoldenTree.Grammar

open Recognition

def Event.error? : Event → Option SyntaxError
  | .report error => some error
  | .enter _ => none

def Event.visit? : Event → Option Visit
  | .enter visit => some visit
  | .report _ => none

/-- Parses a token list from the rule with the given index. -/
def parse (tokens : List Token) (rule : Nat) : Parse :=
  let step := parseFrom rule ⟨tokens, 0⟩
  ⟨step.value, step.events.filterMap Event.error?, step.events.filterMap Event.visit?⟩

/-- The recognizer of the grammar. -/
def recognizer : Recognizer where
  ruleNames := Rule.all.map Rule.name
  symbolName? type := (Symbol.ofCode type).name?
  tokenize := tokenize
  parse := parse

end GoldenTree.Grammar
