/-! The rules of the grammar.

  kotlinFile              : NL* topLevelObject* EOF
  topLevelObject          : declaration semis?
  declaration             : functionDeclaration | propertyDeclaration
  functionDeclaration     : FUN simpleIdentifier functionValueParameters functionBody?
  functionValueParameters : LPAREN (functionValueParameter (COMMA functionValueParameter)*)? RPAREN
  functionValueParameter  : simpleIdentifier COLON type
  type                    : simpleIdentifier
  functionBody            : block
  block                   : LCURL statements RCURL
  statements              : (statement | semis)*
  statement               : declaration | expression
  propertyDeclaration     : VAL simpleIdentifier (ASSIGNMENT expression)?
  expression              : primaryExpression
  primaryExpression       : simpleIdentifier | literalConstant
  literalConstant         : IntegerLiteral
  simpleIdentifier        : Identifier
  semis                   : (SEMICOLON | NL)+
-/
namespace GoldenTree.Grammar

inductive Rule where
  | kotlinFile
  | topLevelObject
  | declaration
  | functionDeclaration
  | functionValueParameters
  | functionValueParameter
  | type
  | functionBody
  | block
  | statements
  | statement
  | propertyDeclaration
  | expression
  | primaryExpression
  | literalConstant
  | simpleIdentifier
  | semis
  deriving Repr, DecidableEq

namespace Rule

def name : Rule → String
  | kotlinFile => "kotlinFile"
  | topLevelObject => "topLevelObject"
  | declaration => "declaration"
  | functionDeclaration => "functionDeclaration"
  | functionValueParameters => "functionValueParameters"
  | functionValueParameter => "functionValueParameter"
  | type => "type"
  | functionBody => "functionBody"
  | block => "block"
  | statements => "statements"
  | statement => "statement"
  | propertyDeclaration => "propertyDeclaration"
  | expression => "expression"
  | primaryExpression => "primaryExpression"
  | literalConstant => "literalConstant"
  | simpleIdentifier => "simpleIdentifier"
  | semis => "semis"

/-- The rules in the order of the rule table. -/
def all : List Rule :=
  [kotlinFile, topLevelObject, declaration, functionDeclaration, functionValueParameters,
   functionValueParameter, type, functionBody, block, statements, statement, propertyDeclaration,
   expression, primaryExpression, literalConstant, simpleIdentifier, semis]

def index : Rule → Nat
  | kotlinFile => 0
  | topLevelObject => 1
  | declaration => 2
  | functionDeclaration => 3
  | functionValueParameters => 4
  | functionValueParameter => 5
  | type => 6
  | functionBody => 7
  | block => 8
  | statements => 9
  | statement => 10
  | propertyDeclaration => 11
  | expression => 12
  | primaryExpression => 13
  | literalConstant => 14
  | simpleIdentifier => 15
  | semis => 16

theorem getElem?_all_index (r : Rule) : all[r.index]? = some r := by cases r <;> rfl

end Rule

end GoldenTree.Grammar
