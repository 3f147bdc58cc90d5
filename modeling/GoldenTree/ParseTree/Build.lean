import GoldenTree.ParseTree.Basic
import GoldenTree.Recognition.Recognizer
import GoldenTree.Text.LineBreak

/-! Parse trees built from source text by a recognizer. -/
namespace GoldenTree

open Recognition Text

/-- Why no tree can be built. Errors in the source are no reason: they come with the tree. -/
inductive BuildError where
  | unknownRootRule (name : String)
  | unknownRuleIndex (index : Nat)
  deriving Repr, DecidableEq

def BuildError.message : BuildError → String
  | unknownRootRule name => String.join ["grammar has no rule named `", name, "`"]
  | unknownRuleIndex index =>
    String.join ["engine produced rule index ", toString index, " outside its rule table"]

/-- A tree and what the lexer and the parser reported on the way to it. -/
structure BuiltTree where
  tree : ParseTree
  lexerErrors : List SyntaxError
  parserErrors : List SyntaxError
  deriving Repr

namespace BuiltTree

def hasLexerErrors (b : BuiltTree) : Bool := !b.lexerErrors.isEmpty

def hasParserErrors (b : BuiltTree) : Bool := !b.parserErrors.isEmpty

def hasErrors (b : BuiltTree) : Bool := b.hasLexerErrors || b.hasParserErrors

end BuiltTree

namespace ParseTree

/-- The terminal of a token: its symbolic name, or its type if the vocabulary has no name for it,
and its text on one line. -/
def ofToken (r : Recognizer) (t : Token) : ParseTree :=
  terminal ((r.symbolName? t.type).getD (toString t.type))
    (String.ofList (escapeBreaks t.text.toList))

mutual

/-- The parse tree of a concrete tree, without its empty slots. -/
def ofConcrete (r : Recognizer) : ConcreteTree → Except BuildError ParseTree
  | .terminal token => .ok (ofToken r token)
  | .rule index slots =>
    match r.ruleNames[index]? with
    | none => .error (.unknownRuleIndex index)
    | some name =>
      match ofSlots r slots with
      | .ok children => .ok (rule name children)
      | .error e => .error e

def ofSlots (r : Recognizer) : List (Option ConcreteTree) → Except BuildError (List ParseTree)
  | [] => .ok []
  | none :: slots => ofSlots r slots
  | some tree :: slots =>
    match ofConcrete r tree with
    | .error e => .error e
    | .ok child =>
      match ofSlots r slots with
      | .ok children => .ok (child :: children)
      | .error e => .error e

end

/-- The parse tree of a whole parse. Its root has the name of the rule that was asked for; a
lone terminal is put below it. -/
def ofRoot (r : Recognizer) (name : String) : ConcreteTree → Except BuildError ParseTree
  | .rule _ slots => (ofSlots r slots).map (rule name)
  | .terminal token => .ok (rule name [ofToken r token])

end ParseTree

/-- How trees are built: the rule at the root, and how large a memo may be when a parse begins. -/
structure TreeBuilder where
  rootRule : String
  ceiling : Nat
  deriving Repr, DecidableEq

namespace TreeBuilder

def standard : TreeBuilder := ⟨"kotlinFile", 10000⟩

/-- A built tree, or why there is none, and the rule entries that were made. -/
structure Result where
  built : Except BuildError BuiltTree
  visits : List Grammar.Visit

/-- Builds the tree of a source text. -/
def build (b : TreeBuilder) (r : Recognizer) (source : String) : Result :=
  match r.ruleIndex? b.rootRule with
  | none => ⟨.error (.unknownRootRule b.rootRule), []⟩
  | some index =>
    let (tokens, lexerErrors) := r.tokenize source
    let parse := r.parse tokens index
    let tree := ParseTree.ofRoot r b.rootRule parse.tree
    ⟨tree.map (⟨·, lexerErrors, parse.errors⟩), parse.visits⟩

end TreeBuilder

end GoldenTree
