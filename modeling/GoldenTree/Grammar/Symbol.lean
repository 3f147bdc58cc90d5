import GoldenTree.Token

/-! The terminal symbols of the grammar. -/
namespace GoldenTree.Grammar

/-- What a token type stands for; `other` is a type outside the vocabulary. -/
inductive Symbol where
  | endOfInput
  | funKeyword
  | valKeyword
  | leftParen
  | rightParen
  | leftBrace
  | rightBrace
  | comma
  | colon
  | semicolon
  | assign
  | newline
  | identifier
  | integer
  | other (code : Int)
  deriving Repr, DecidableEq

namespace Symbol

/-- The token type of a symbol. -/
def code : Symbol → Int
  | endOfInput => Token.endType
  | funKeyword => 1
  | valKeyword => 2
  | leftParen => 3
  | rightParen => 4
  | leftBrace => 5
  | rightBrace => 6
  | comma => 7
  | colon => 8
  | semicolon => 9
  | assign => 10
  | newline => 11
  | identifier => 12
  | integer => 13
  | other n => n

/-- The symbols of the vocabulary. -/
def known : List Symbol :=
  [endOfInput, funKeyword, valKeyword, leftParen, rightParen, leftBrace, rightBrace, comma, colon,
   semicolon, assign, newline, identifier, integer]

/-- The symbol of a token type. -/
def ofCode (n : Int) : Symbol := (known.find? (·.code = n)).getD (other n)

theorem code_ofCode (n : Int) : (ofCode n).code = n := by
  unfold ofCode
  cases h : known.find? (·.code = n) with
  | none => rfl
  | some s => simpa using List.find?_some h

/-- The name a dump shows for a symbol. -/
def name? : Symbol → Option String
  | endOfInput => some "EOF"
  | funKeyword => some "FUN"
  | valKeyword => some "VAL"
  | leftParen => some "LPAREN"
  | rightParen => some "RPAREN"
  | leftBrace => some "LCURL"
  | rightBrace => some "RCURL"
  | comma => some "COMMA"
  | colon => some "COLON"
  | semicolon => some "SEMICOLON"
  | assign => some "ASSIGNMENT"
  | newline => some "NL"
  | identifier => some "Identifier"
  | integer => some "IntegerLiteral"
  | other _ => none

end Symbol

end GoldenTree.Grammar

namespace GoldenTree

/-- The symbol a token stands for. -/
def Token.symbol (t : Token) : Grammar.Symbol := .ofCode t.type

end GoldenTree
