import GoldenTree.Text.Position

/-! Tokens and the errors that reading them can report. -/
namespace GoldenTree

open Text

/-- A token, with the position of its first character. Types are numbered by the recognizer. -/
structure Token where
  type : Int
  text : String
  position : Position
  deriving Repr, DecidableEq

namespace Token

/-- The type of the token that ends every token list. -/
def endType : Int := -1

def isEnd (t : Token) : Bool := t.type == endType

/-- The token that ends a token list. -/
def ending (p : Position) : Token := ⟨endType, "<EOF>", p⟩

@[simp] theorem isEnd_ending (p : Position) : (ending p).isEnd = true := rfl

end Token

/-- A recognition error. -/
structure SyntaxError where
  position : Position
  message : String
  deriving Repr, DecidableEq

/-- A message after the position it is about. -/
def located (p : Position) (message : String) : String :=
  String.join ["Line ", toString p.line, ":", toString p.column, " ", message]

def SyntaxError.render (e : SyntaxError) : String := located e.position e.message

end GoldenTree
