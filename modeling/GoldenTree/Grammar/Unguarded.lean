import GoldenTree.Recognition.Recognizer

/-! The parser without the guards that make it total. Loops turn as long as the symbol at hand lets
them and blocks nest as they are found, whether tokens are taken or not. A run of which a loop turns
or blocks nest for longer than its fuel lasts is given up as `none`. Rules that neither loop nor hold
blocks are those of the parser. -/
namespace GoldenTree.Grammar.Unguarded

open GoldenTree.Grammar.Parser

/-- How far a run has come, and the events on the way. -/
structure Trail where
  cursor : Cursor
  events : List Event

/-- A run that yields a value, unless it is given up. -/
abbrev Run (α : Type) : Type := StateT Trail Option α

/-- A run of a parser that always ends. -/
def once {α : Type} (p : Parser α) : Run α := fun t =>
  some ((p t.cursor).value, ⟨(p t.cursor).cursor, t.events ++ (p t.cursor).events⟩)

/-- Repeats as long as there is an item for the symbol at hand. -/
def many {α : Type} (item : Symbol → Option (Run (List α))) : Nat → Run (List α)
  | 0 => failure
  | fuel + 1 => do
    match item (← once lookahead) with
    | none => return []
    | some p => return (← p) ++ (← many item fuel)

section Fueled

variable (fuel : Nat)

def parameterList : Run (List ConcreteTree) := do
  if (← once lookahead) = .identifier then
    let first ← once functionValueParameter
    let others ← many (fun s => (furtherParameter s).map once) fuel
    return first :: others
  else
    return []

def functionValueParameters : Run ConcreteTree := do
  once (enter .functionValueParameters)
  let opening ← once (expect .leftParen)
  let parameters ← parameterList fuel
  let closing ← once closingParen
  return node .functionValueParameters (opening ++ parameters ++ closing)

def semis : Run ConcreteTree := do
  once (enter .semis)
  return node .semis (← many (fun s => (semisItem s).map once) fuel)

section Nested

variable (statements : Run ConcreteTree)

def block : Run ConcreteTree := do
  once (enter .block)
  let opening ← once (expect .leftBrace)
  let body ← statements
  let closing ← once (expect .rightBrace)
  return node .block (opening ++ [body] ++ closing)

def functionBody : Run ConcreteTree := do
  once (enter .functionBody)
  return node .functionBody [← block statements]

def functionDeclaration : Run ConcreteTree := do
  once (enter .functionDeclaration)
  let keyword ← once (expect .funKeyword)
  let name ← once simpleIdentifier
  let parameters ← functionValueParameters fuel
  let head := (keyword ++ [name, parameters]).map some
  if (← once lookahead) = .leftBrace then
    let body ← functionBody statements
    return .rule Rule.functionDeclaration.index (head ++ [some body])
  else
    return .rule Rule.functionDeclaration.index (head ++ [none])

def declaration : Run ConcreteTree := do
  once (enter .declaration)
  if (← once lookahead) = .valKeyword then
    return node .declaration [← once propertyDeclaration]
  else
    return node .declaration [← functionDeclaration fuel statements]

def statement : Run ConcreteTree := do
  once (enter .statement)
  let symbol ← once lookahead
  if symbol = .funKeyword ∨ symbol = .valKeyword then
    return node .statement [← declaration fuel statements]
  else
    return node .statement [← once expression]

/-- What may stand in a list of statements; a closing brace or the end of input ends the list. -/
def statementsItem : Symbol → Option (Run (List ConcreteTree))
  | .rightBrace | .endOfInput => none
  | .newline | .semicolon => some do return [← semis fuel]
  | .funKeyword | .valKeyword | .identifier | .integer =>
    some do return [← statement fuel statements]
  | _ => some (once (extraneous "'\x7d'"))

end Nested

end Fueled

/-- Fuel burns with every block that a list of statements is nested in. -/
def statements : Nat → Run ConcreteTree
  | 0 => failure
  | fuel + 1 => do
    once (enter .statements)
    return node .statements (← many (statementsItem (fuel + 1) (statements fuel)) (fuel + 1))

section Fueled

variable (fuel : Nat)

def topLevelObject : Run ConcreteTree := do
  once (enter .topLevelObject)
  let object ← declaration fuel (statements fuel)
  let symbol ← once lookahead
  if symbol = .newline ∨ symbol = .semicolon then
    return node .topLevelObject [object, ← semis fuel]
  else
    return node .topLevelObject [object]

/-- What may stand in a file; the end of input ends it. -/
def fileItem : Symbol → Option (Run (List ConcreteTree))
  | .endOfInput => none
  | .newline => some do return [← once consume]
  | .funKeyword | .valKeyword => some do return [← topLevelObject fuel]
  | _ => some (once (extraneous "\x7b<EOF>, 'fun', 'val'\x7d"))

def kotlinFile : Run ConcreteTree := do
  once (enter .kotlinFile)
  let objects ← many (fileItem fuel) fuel
  let ending ← once consume
  return node .kotlinFile (objects ++ [ending])

/-- Parses from one of the four rules that can start a tree; any other rule has a bare node. -/
def parseFrom (rule : Nat) : Run ConcreteTree :=
  if rule = Rule.kotlinFile.index then kotlinFile fuel
  else if rule = Rule.declaration.index then declaration fuel (statements fuel)
  else if rule = Rule.statements.index then statements fuel
  else if rule = Rule.expression.index then once expression
  else pure (.rule rule [])

/-- Parses a token list from the rule with the given index, if the fuel lasts. -/
def parse (tokens : List Token) (rule : Nat) : Option Recognition.Parse :=
  (parseFrom fuel rule ⟨⟨tokens, 0⟩, []⟩).map fun (tree, trail) =>
    ⟨tree, trail.events.filterMap Event.error?, trail.events.filterMap Event.visit?⟩

end Fueled

end GoldenTree.Grammar.Unguarded
