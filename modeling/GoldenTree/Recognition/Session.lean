import GoldenTree.ParseTree.Build
import GoldenTree.Recognition.Memo

/-! A session owns the memo that its engines share. An engine is bounded before it is used: a memo
above the ceiling is emptied and the engine starts afresh.

A parse says which rules it entered, and they are put into the engine and the memo when it is over.
The module on entering has a parser that puts each rule there as it enters it; that both leave the
same behind is proved in the module on simulation. -/
namespace GoldenTree.Recognition

open Grammar (Visit)

/-- What one engine keeps: the decisions made since it last started afresh, and how often it
did. -/
structure Engine where
  decisions : Nat
  resets : Nat
  deriving Repr, DecidableEq

namespace Engine

def fresh : Engine := ⟨0, 0⟩

def reset (e : Engine) : Engine := ⟨0, e.resets + 1⟩

/-- Makes one decision for every rule entry. -/
def record (e : Engine) (visits : List Visit) : Engine :=
  { e with decisions := e.decisions + visits.length }

end Engine

/-- An engine whose memo was checked against a ceiling. -/
structure BoundedEngine where
  engine : Engine
  ceiling : Nat
  wasReset : Bool
  deriving Repr, DecidableEq

def Engine.bound (e : Engine) (ceiling : Nat) (memo : ContextMemo Visit) :
    BoundedEngine × ContextMemo Visit :=
  let (emptied, memo) := Memo.trim ceiling memo
  (⟨if emptied then e.reset else e, ceiling, emptied⟩, memo)

/-- One memo for many engines. -/
structure Session where
  recognizer : Recognizer
  builder : TreeBuilder
  memo : ContextMemo Visit

namespace Session

def new (r : Recognizer) (b : TreeBuilder) : Session := ⟨r, b, .empty⟩

/-- Bounds an engine by a ceiling. -/
def bound (s : Session) (e : Engine) (ceiling : Nat) : BoundedEngine × Session :=
  let (bounded, memo) := e.bound ceiling s.memo
  (bounded, { s with memo })

/-- A fresh engine, bounded by the ceiling of the builder. -/
def engine (s : Session) : BoundedEngine × Session := s.bound .fresh s.builder.ceiling

/-- Enters what a parse visited into the engine and the memo. -/
def record (s : Session) (b : BoundedEngine) (visits : List Visit) : BoundedEngine × Session :=
  ({ b with engine := b.engine.record visits }, { s with memo := s.memo.internAll visits })

/-- Builds the tree of a source text with an engine that is bounded already. -/
def buildWith (s : Session) (b : BoundedEngine) (source : String) :
    Except BuildError BuiltTree × BoundedEngine × Session :=
  let result := s.builder.build s.recognizer source
  (result.built, s.record b result.visits)

/-- The concrete tree of a source text from the first rule, without diagnostics. -/
def parseConcrete (s : Session) (b : BoundedEngine) (source : String) :
    ConcreteTree × BoundedEngine × Session :=
  let parse := s.recognizer.parse (s.recognizer.tokenize source).1 0
  (parse.tree, s.record b parse.visits)

/-- Builds the tree of a source text with a fresh engine. -/
def parse (s : Session) (source : String) : Except BuildError BuiltTree × Session :=
  let (b, s) := s.engine
  let (built, _, s) := s.buildWith b source
  (built, s)

end Session

end GoldenTree.Recognition
