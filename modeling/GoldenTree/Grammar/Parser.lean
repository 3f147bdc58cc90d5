import GoldenTree.ConcreteTree
import GoldenTree.Grammar.Rule
import GoldenTree.Grammar.Symbol

/-! A parser that always yields a tree. What does not fit is reported and either left where it is
or taken into the tree, so that parsing goes on behind it. -/
namespace GoldenTree.Grammar

open Text

/-- One rule entered at one place: its index, how many tokens lie before it and the text of the
token it begins with. -/
structure Visit where
  rule : Nat
  index : Nat
  lookahead : String
  deriving Repr, DecidableEq, Hashable

/-- What parsing leaves behind beside the tree. -/
inductive Event where
  | enter (visit : Visit)
  | report (error : SyntaxError)
  deriving Repr, DecidableEq

/-- A place in a token list: the tokens from there on and how many were consumed. The last token
and any end-of-input token stay in `rest` for good. -/
structure Cursor where
  rest : List Token
  index : Nat
  deriving Repr, DecidableEq

namespace Cursor

def symbol (c : Cursor) : Symbol := (c.rest.head?.map Token.symbol).getD .endOfInput

def text (c : Cursor) : String := (c.rest.head?.map Token.text).getD ""

def position (c : Cursor) : Position := (c.rest.head?.map Token.position).getD .start

/-- How many tokens are left. -/
def size (c : Cursor) : Nat := c.rest.length

end Cursor

/-- A value, the place after what was read for it, and the events on the way. -/
structure Step (α : Type) where
  value : α
  cursor : Cursor
  events : List Event

def Parser (α : Type) : Type := Cursor → Step α

namespace Parser

protected def pure {α : Type} (a : α) : Parser α := fun c => ⟨a, c, []⟩

protected def bind {α β : Type} (p : Parser α) (f : α → Parser β) : Parser β := fun c =>
  let first := p c
  let second := f first.value first.cursor
  ⟨second.value, second.cursor, first.events ++ second.events⟩

instance : Monad Parser where
  pure := Parser.pure
  bind := Parser.bind

@[simp] theorem pure_apply {α : Type} (a : α) (c : Cursor) :
    (pure a : Parser α) c = ⟨a, c, []⟩ := rfl

@[simp] theorem bind_apply {α β : Type} (p : Parser α) (f : α → Parser β) (c : Cursor) :
    (p >>= f) c = ⟨(f (p c).value (p c).cursor).value, (f (p c).value (p c).cursor).cursor,
      (p c).events ++ (f (p c).value (p c).cursor).events⟩ := rfl

def lookahead : Parser Symbol := fun c => ⟨c.symbol, c, []⟩

def enter (r : Rule) : Parser Unit := fun c => ⟨(), c, [.enter ⟨r.index, c.index, c.text⟩]⟩

/-- Reports an error about the token at hand, whose text stands in single quotes between the two
parts of the message. -/
def report (before after : String) : Parser Unit := fun c =>
  ⟨(), c, [.report ⟨c.position, before ++ "'" ++ c.text ++ "'" ++ after⟩]⟩

/-- Takes the token at hand into the tree. -/
def consume : Parser ConcreteTree := fun c =>
  match c.rest with
  | [] => ⟨.terminal (.ending .start), c, []⟩
  | t :: rest =>
    if t.isEnd then ⟨.terminal t, c, []⟩
    else ⟨.terminal t, ⟨if rest.isEmpty then [t] else rest, c.index + 1⟩, []⟩

/-- Takes a token of the given symbol, or reports that it is missing. -/
def expect (s : Symbol) : Parser (List ConcreteTree) := do
  if (← lookahead) = s then
    return [← consume]
  else
    report ("missing " ++ s.name?.getD "" ++ " at ") ""
    return []

/-- Repeats as long as `item` has a parser for the symbol at hand. A turn that moves nothing is
the last one: no token is left but the one that stays for good. -/
def many {α : Type} (item : Symbol → Option (Parser (List α))) (c : Cursor) : Step (List α) :=
  match item c.symbol with
  | none => ⟨[], c, []⟩
  | some p =>
    let first := p c
    if _h : first.cursor.size < c.size then
      let others := many item first.cursor
      ⟨first.value ++ others.value, others.cursor, first.events ++ others.events⟩
    else first
termination_by c.size

end Parser

open GoldenTree.Grammar.Parser

/-- A node of a rule without empty slots. -/
def node (r : Rule) (children : List ConcreteTree) : ConcreteTree :=
  .rule r.index (children.map some)

def simpleIdentifier : Parser ConcreteTree := do
  enter .simpleIdentifier
  return node .simpleIdentifier (← expect .identifier)

def literalConstant : Parser ConcreteTree := do
  enter .literalConstant
  return node .literalConstant [← consume]

def primaryExpression : Parser ConcreteTree := do
  enter .primaryExpression
  if (← lookahead) = .integer then
    return node .primaryExpression [← literalConstant]
  else
    return node .primaryExpression [← simpleIdentifier]

def expression : Parser ConcreteTree := do
  enter .expression
  return node .expression [← primaryExpression]

def propertyDeclaration : Parser ConcreteTree := do
  enter .propertyDeclaration
  let keyword ← expect .valKeyword
  let name ← simpleIdentifier
  if (← lookahead) = .assign then
    let sign ← consume
    let value ← expression
    return node .propertyDeclaration (keyword ++ [name, sign, value])
  else
    return node .propertyDeclaration (keyword ++ [name])

def type : Parser ConcreteTree := do
  enter .type
  return node .type [← simpleIdentifier]

def functionValueParameter : Parser ConcreteTree := do
  enter .functionValueParameter
  let name ← simpleIdentifier
  let colon ← expect .colon
  let type ← type
  return node .functionValueParameter ([name] ++ colon ++ [type])

/-- A comma and the parameter after it. -/
def furtherParameter : Symbol → Option (Parser (List ConcreteTree))
  | .comma => some do
    let comma ← consume
    let parameter ← functionValueParameter
    return [comma, parameter]
  | _ => none

def parameterList : Parser (List ConcreteTree) := do
  if (← lookahead) = .identifier then
    let first ← functionValueParameter
    let others ← many furtherParameter
    return first :: others
  else
    return []

def closingParen : Parser (List ConcreteTree) := do
  if (← lookahead) = .rightParen then
    return [← consume]
  else
    report "mismatched input " " expecting ')'"
    return []

def functionValueParameters : Parser ConcreteTree := do
  enter .functionValueParameters
  let opening ← expect .leftParen
  let parameters ← parameterList
  let closing ← closingParen
  return node .functionValueParameters (opening ++ parameters ++ closing)

/-- What may stand in a row of line breaks. -/
def semisItem : Symbol → Option (Parser (List ConcreteTree))
  | .newline | .semicolon => some do return [← consume]
  | _ => none

def semis : Parser ConcreteTree := do
  enter .semis
  return node .semis (← many semisItem)

/-- Takes a token that fits nowhere. -/
def extraneous (expected : String) : Parser (List ConcreteTree) := do
  report "extraneous input " (" expecting " ++ expected)
  return [← consume]

section Nested

variable (statements : Parser ConcreteTree)

def block : Parser ConcreteTree := do
  enter .block
  let opening ← expect .leftBrace
  let body ← statements
  let closing ← expect .rightBrace
  return node .block (opening ++ [body] ++ closing)

def functionBody : Parser ConcreteTree := do
  enter .functionBody
  return node .functionBody [← block statements]

def functionDeclaration : Parser ConcreteTree := do
  enter .functionDeclaration
  let keyword ← expect .funKeyword
  let name ← simpleIdentifier
  let parameters ← functionValueParameters
  let head := (keyword ++ [name, parameters]).map some
  if (← lookahead) = .leftBrace then
    let body ← functionBody statements
    return .rule Rule.functionDeclaration.index (head ++ [some body])
  else
    return .rule Rule.functionDeclaration.index (head ++ [none])

def declaration : Parser ConcreteTree := do
  enter .declaration
  if (← lookahead) = .valKeyword then
    return node .declaration [← propertyDeclaration]
  else
    return node .declaration [← functionDeclaration statements]

def statement : Parser ConcreteTree := do
  enter .statement
  let symbol ← lookahead
  if symbol = .funKeyword ∨ symbol = .valKeyword then
    return node .statement [← declaration statements]
  else
    return node .statement [← expression]

/-- What may stand in a list of statements; a closing brace or the end of input ends the list. -/
def statementsItem : Symbol → Option (Parser (List ConcreteTree))
  | .rightBrace | .endOfInput => none
  | .newline | .semicolon => some do return [← semis]
  | .funKeyword | .valKeyword | .identifier | .integer => some do return [← statement statements]
  | _ => some (extraneous "'\x7d'")

end Nested

/-- A block nested in a statement begins further on than the list it is part of. -/
def statements (c : Cursor) : Step ConcreteTree :=
  let nested : Parser ConcreteTree := fun inner =>
    if _h : inner.size < c.size then statements inner else ⟨node .statements [], inner, []⟩
  (do
    enter .statements
    return node .statements (← many (statementsItem nested)) : Parser ConcreteTree) c
termination_by c.size

def topLevelObject : Parser ConcreteTree := do
  enter .topLevelObject
  let object ← declaration statements
  let symbol ← lookahead
  if symbol = .newline ∨ symbol = .semicolon then
    return node .topLevelObject [object, ← semis]
  else
    return node .topLevelObject [object]

/-- What may stand in a file; the end of input ends it. -/
def fileItem : Symbol → Option (Parser (List ConcreteTree))
  | .endOfInput => none
  | .newline => some do return [← consume]
  | .funKeyword | .valKeyword => some do return [← topLevelObject]
  | _ => some (extraneous "\x7b<EOF>, 'fun', 'val'\x7d")

def kotlinFile : Parser ConcreteTree := do
  enter .kotlinFile
  let objects ← many fileItem
  let ending ← consume
  return node .kotlinFile (objects ++ [ending])

/-- Parses from one of the four rules that can start a tree; any other rule has a bare node. -/
def parseFrom (rule : Nat) : Parser ConcreteTree :=
  if rule = Rule.kotlinFile.index then kotlinFile
  else if rule = Rule.declaration.index then declaration statements
  else if rule = Rule.statements.index then statements
  else if rule = Rule.expression.index then expression
  else pure (.rule rule [])

end GoldenTree.Grammar
