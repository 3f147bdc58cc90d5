import GoldenTree.Recognition.Session

/-! The parser with its effects made as it goes. Where the parser of the grammar only says which
rules it entered and what it reported, so that a session can enter them afterwards, this one carries
the engine and the shared memo along: every rule is entered into both at the moment it begins, and
every error is put behind those reported before. -/
namespace GoldenTree.Recognition.Entering

open Grammar
open GoldenTree.Grammar.Parser (lookahead)

/-- What a parser works on: the place that it has reached, the errors that it has reported, its
engine, and the memo that it shares with other engines. -/
structure Work where
  cursor : Cursor
  errors : List SyntaxError
  engine : Engine
  memo : ContextMemo Visit

abbrev Run (α : Type) : Type := StateM Work α

/-- A parser that enters no rule and reports nothing. -/
def quietly {α : Type} (p : Parser α) : Run α := fun w =>
  ((p w.cursor).value, { w with cursor := (p w.cursor).cursor })

/-- Decides at the token at hand and interns the context of the decision. -/
def enter (r : Rule) : Run Unit := fun w =>
  let visit : Visit := ⟨r.index, w.cursor.index, w.cursor.text⟩
  ((), { w with engine := w.engine.record [visit], memo := (w.memo.intern visit).2 })

/-- Reports an error about the token at hand, whose text stands in single quotes between the two
parts of the message. -/
def report (before after : String) : Run Unit := fun w =>
  let error : SyntaxError := ⟨w.cursor.position, before ++ "'" ++ w.cursor.text ++ "'" ++ after⟩
  ((), { w with errors := w.errors ++ [error] })

def consume : Run ConcreteTree := quietly Parser.consume

/-- Takes a token of the given symbol, or reports that it is missing. -/
def expect (s : Symbol) : Run (List ConcreteTree) := do
  if (← quietly lookahead) = s then
    return [← consume]
  else
    report ("missing " ++ s.name?.getD "" ++ " at ") ""
    return []

/-- Repeats as long as there is an item for the symbol at hand, up to a turn that takes no token. -/
def many {α : Type} (item : Symbol → Option (Run (List α))) (w : Work) : List α × Work :=
  match item w.cursor.symbol with
  | none => ([], w)
  | some p =>
    let first := p w
    if _h : first.2.cursor.size < w.cursor.size then
      let others := many item first.2
      (first.1 ++ others.1, others.2)
    else first
termination_by w.cursor.size

def simpleIdentifier : Run ConcreteTree := do
  enter .simpleIdentifier
  return node .simpleIdentifier (← expect .identifier)

def literalConstant : Run ConcreteTree := do
  enter .literalConstant
  return node .literalConstant [← consume]

def primaryExpression : Run ConcreteTree := do
  enter .primaryExpression
  if (← quietly lookahead) = .integer then
    return node .primaryExpression [← literalConstant]
  else
    return node .primaryExpression [← simpleIdentifier]

def expression : Run ConcreteTree := do
  enter .expression
  return node .expression [← primaryExpression]

def propertyDeclaration : Run ConcreteTree := do
  enter .propertyDeclaration
  let keyword ← expect .valKeyword
  let name ← simpleIdentifier
  if (← quietly lookahead) = .assign then
    let sign ← consume
    let value ← expression
    return node .propertyDeclaration (keyword ++ [name, sign, value])
  else
    return node .propertyDeclaration (keyword ++ [name])

def type : Run ConcreteTree := do
  enter .type
  return node .type [← simpleIdentifier]

def functionValueParameter : Run ConcreteTree := do
  enter .functionValueParameter
  let name ← simpleIdentifier
  let colon ← expect .colon
  let type ← type
  return node .functionValueParameter ([name] ++ colon ++ [type])

/-- A comma and the parameter after it. -/
def furtherParameter : Symbol → Option (Run (List ConcreteTree))
  | .comma => some do
    let comma ← consume
    let parameter ← functionValueParameter
    return [comma, parameter]
  | _ => none

def parameterList : Run (List ConcreteTree) := do
  if (← quietly lookahead) = .identifier then
    let first ← functionValueParameter
    let others ← many furtherParameter
    return first :: others
  else
    return []

def closingParen : Run (List ConcreteTree) := do
  if (← quietly lookahead) = .rightParen then
    return [← consume]
  else
    report "mismatched input " " expecting ')'"
    return []

def functionValueParameters : Run ConcreteTree := do
  enter .functionValueParameters
  let opening ← expect .leftParen
  let parameters ← parameterList
  let closing ← closingParen
  return node .functionValueParameters (opening ++ parameters ++ closing)

/-- What may stand in a row of line breaks. -/
def semisItem : Symbol → Option (Run (List ConcreteTree))
  | .newline | .semicolon => some do return [← consume]
  | _ => none

def semis : Run ConcreteTree := do
  enter .semis
  return node .semis (← many semisItem)

/-- Takes a token that fits nowhere. -/
def extraneous (expected : String) : Run (List ConcreteTree) := do
  report "extraneous input " (" expecting " ++ expected)
  return [← consume]

section Nested

variable (statements : Run ConcreteTree)

def block : Run ConcreteTree := do
  enter .block
  let opening ← expect .leftBrace
  let body ← statements
  let closing ← expect .rightBrace
  return node .block (opening ++ [body] ++ closing)

def functionBody : Run ConcreteTree := do
  enter .functionBody
  return node .functionBody [← block statements]

def functionDeclaration : Run ConcreteTree := do
  enter .functionDeclaration
  let keyword ← expect .funKeyword
  let name ← simpleIdentifier
  let parameters ← functionValueParameters
  let head := (keyword ++ [name, parameters]).map some
  if (← quietly lookahead) = .leftBrace then
    let body ← functionBody statements
    return .rule Rule.functionDeclaration.index (head ++ [some body])
  else
    return .rule Rule.functionDeclaration.index (head ++ [none])

def declaration : Run ConcreteTree := do
  enter .declaration
  if (← quietly lookahead) = .valKeyword then
    return node .declaration [← propertyDeclaration]
  else
    return node .declaration [← functionDeclaration statements]

def statement : Run ConcreteTree := do
  enter .statement
  let symbol ← quietly lookahead
  if symbol = .funKeyword ∨ symbol = .valKeyword then
    return node .statement [← declaration statements]
  else
    return node .statement [← expression]

/-- What may stand in a list of statements; a closing brace or the end of input ends the list. -/
def statementsItem : Symbol → Option (Run (List ConcreteTree))
  | .rightBrace | .endOfInput => none
  | .newline | .semicolon => some do return [← semis]
  | .funKeyword | .valKeyword | .identifier | .integer => some do return [← statement statements]
  | _ => some (extraneous "'\x7d'")

end Nested

/-- A block nested in a statement begins further on than the list it is part of. -/
def statements (w : Work) : ConcreteTree × Work :=
  let nested : Run ConcreteTree := fun inner =>
    if _h : inner.cursor.size < w.cursor.size then statements inner
    else (node .statements [], inner)
  (do
    enter .statements
    return node .statements (← many (statementsItem nested)) : Run ConcreteTree) w
termination_by w.cursor.size

def topLevelObject : Run ConcreteTree := do
  enter .topLevelObject
  let object ← declaration statements
  let symbol ← quietly lookahead
  if symbol = .newline ∨ symbol = .semicolon then
    return node .topLevelObject [object, ← semis]
  else
    return node .topLevelObject [object]

/-- What may stand in a file; the end of input ends it. -/
def fileItem : Symbol → Option (Run (List ConcreteTree))
  | .endOfInput => none
  | .newline => some do return [← consume]
  | .funKeyword | .valKeyword => some do return [← topLevelObject]
  | _ => some (extraneous "\x7b<EOF>, 'fun', 'val'\x7d")

def kotlinFile : Run ConcreteTree := do
  enter .kotlinFile
  let objects ← many fileItem
  let ending ← consume
  return node .kotlinFile (objects ++ [ending])

/-- Parses from one of the four rules that can start a tree; any other rule has a bare node. -/
def parseFrom (rule : Nat) : Run ConcreteTree :=
  if rule = Rule.kotlinFile.index then kotlinFile
  else if rule = Rule.declaration.index then declaration statements
  else if rule = Rule.statements.index then statements
  else if rule = Rule.expression.index then expression
  else pure (.rule rule [])

/-- Builds the tree of a source text with an engine that is bounded already. -/
def buildWith (b : TreeBuilder) (engine : BoundedEngine) (memo : ContextMemo Visit)
    (source : String) : Except BuildError BuiltTree × BoundedEngine × ContextMemo Visit :=
  match recognizer.ruleIndex? b.rootRule with
  | none => (.error (.unknownRootRule b.rootRule), engine, memo)
  | some index =>
    let (tokens, lexerErrors) := tokenize source
    let (tree, w) := parseFrom index ⟨⟨tokens, 0⟩, [], engine.engine, memo⟩
    let built := ParseTree.ofRoot recognizer b.rootRule tree
    (built.map (⟨·, lexerErrors, w.errors⟩), { engine with engine := w.engine }, w.memo)

/-- Builds the tree of a source text with an engine that is bounded first. -/
def build (b : TreeBuilder) (engine : Engine) (memo : ContextMemo Visit) (source : String) :
    Except BuildError BuiltTree × BoundedEngine × ContextMemo Visit :=
  let (bounded, memo) := engine.bound b.ceiling memo
  buildWith b bounded memo source

/-- The concrete tree of a source text from the first rule, without diagnostics. -/
def parseConcrete (engine : BoundedEngine) (memo : ContextMemo Visit) (source : String) :
    ConcreteTree × BoundedEngine × ContextMemo Visit :=
  let (tree, w) := parseFrom 0 ⟨⟨(tokenize source).1, 0⟩, [], engine.engine, memo⟩
  (tree, { engine with engine := w.engine }, w.memo)

end GoldenTree.Recognition.Entering
