import GoldenTree.Recognition.Entering
import Mathlib.Data.Option.Defs
import Mathlib.Tactic.Common

/-! The parser that makes its effects as it goes follows the parser that only says what they are:
from any engine and any memo it takes the same tokens to the same tree, reports the same errors, and
enters the same rules in the same order. What the memo holds decides nothing. -/
namespace GoldenTree.Recognition.Entering

open Grammar

namespace Work

variable (w : Work) (c d : Cursor) (e f : List Event)

/-- What is left to work on at a place when the events on the way there have been acted on. -/
def after : Work :=
  ⟨c, w.errors ++ e.filterMap Event.error?, w.engine.record (e.filterMap Event.visit?),
    w.memo.internAll (e.filterMap Event.visit?)⟩

@[simp] theorem cursor_after : (w.after c e).cursor = c := rfl

theorem after_nil : w.after c [] = { w with cursor := c } := by
  simp [after, Engine.record, ContextMemo.internAll]

theorem after_append : (w.after c e).after d f = w.after d (e ++ f) := by
  simp [after, Engine.record, ContextMemo.internAll, Nat.add_assoc]

end Work

variable {α β : Type}

/-- The run does what the parser says, whatever there is to work on. -/
def Follows (q : Run α) (p : Parser α) : Prop :=
  ∀ w : Work, q w = ((p w.cursor).value, w.after (p w.cursor).cursor (p w.cursor).events)

namespace Follows

variable {p : Parser α} {q : Run α}

theorem pure (a : α) : Follows (Pure.pure a) (Pure.pure a) := by
  intro w
  rw [Parser.pure_apply, Work.after_nil]
  rfl

theorem bind {f : α → Parser β} {g : α → Run β} (h : Follows q p)
    (h' : ∀ a, Follows (g a) (f a)) : Follows (q >>= g) (p >>= f) := by
  intro w
  have hrun : (q >>= g) w = g (q w).1 (q w).2 := rfl
  rw [hrun, h w, h' (p w.cursor).value, Work.after_append]
  rfl

theorem map (f : α → β) (h : Follows q p) :
    Follows (q >>= fun a => Pure.pure (f a)) (p >>= fun a => Pure.pure (f a)) :=
  h.bind fun a => pure (f a)

theorem ite {P : Prop} [Decidable P] {p' : Parser α} {q' : Run α} (h : Follows q p)
    (h' : Follows q' p') : Follows (if P then q else q') (if P then p else p') := by
  split
  · exact h
  · exact h'

/-- A parser without events can be run as it stands. -/
theorem quietly (h : ∀ c, (p c).events = []) : Follows (Entering.quietly p) p := by
  intro w
  rw [h w.cursor, Work.after_nil]
  rfl

theorem lookahead : Follows (Entering.quietly Parser.lookahead) Parser.lookahead :=
  quietly fun _ => rfl

theorem consume : Follows Entering.consume Parser.consume := by
  apply quietly
  intro c
  rw [Parser.consume]
  split
  · rfl
  · split <;> rfl

theorem enter (r : Rule) : Follows (Entering.enter r) (Parser.enter r) := by
  intro w
  have herrors : w.errors = w.errors ++ [] := (List.append_nil _).symm
  rw [Entering.enter, herrors]
  rfl

theorem report (before after : String) :
    Follows (Entering.report before after) (Parser.report before after) := fun _ => rfl

theorem expect (s : Symbol) : Follows (Entering.expect s) (Parser.expect s) := by
  apply lookahead.bind
  intro symbol
  apply ite
  · exact consume.map _
  · exact (report _ _).bind fun _ => pure []

/-- Loops follow one another if their items do. -/
theorem many {item : Symbol → Option (Parser (List α))} {item' : Symbol → Option (Run (List α))}
    (h : ∀ s, Option.Rel Follows (item' s) (item s)) :
    Follows (Entering.many item') (Parser.many item) := by
  intro w
  -- the loop goes on behind a turn only with fewer tokens left
  induction hn : w.cursor.size using Nat.strongRecOn generalizing w with
  | ind n ih =>
    subst hn
    have hitem := h w.cursor.symbol
    rw [Entering.many, Parser.many]
    generalize item' w.cursor.symbol = q?, item w.cursor.symbol = p? at hitem
    cases hitem with
    | none => rw [Work.after_nil]
    | some hturn =>
      simp only [hturn w, Work.cursor_after]
      split
      · next hlt =>
        rw [ih _ hlt _ rfl, Work.cursor_after, Work.after_append]
      · rfl

/-- A rule is followed if what it does after it was entered is. -/
theorem rule (r : Rule) (h : Follows q p) :
    Follows (Entering.enter r >>= fun _ => q) (Parser.enter r >>= fun _ => p) :=
  (enter r).bind fun _ => h

/-- What is decided by the symbol at hand is followed if both ways to go on are. -/
theorem choice {P : Symbol → Prop} [DecidablePred P] {p' : Parser α} {q' : Run α}
    (h : Follows q p) (h' : Follows q' p') :
    Follows (Entering.quietly Parser.lookahead >>= fun s => if P s then q else q')
      (Parser.lookahead >>= fun s => if P s then p else p') :=
  lookahead.bind fun _ => ite h h'

end Follows

/-! Every rule of the one parser follows the rule of the other. -/

theorem follows_simpleIdentifier : Follows simpleIdentifier Grammar.simpleIdentifier := by
  apply Follows.rule
  exact (Follows.expect _).map _

theorem follows_literalConstant : Follows literalConstant Grammar.literalConstant := by
  apply Follows.rule
  exact Follows.consume.map _

theorem follows_primaryExpression : Follows primaryExpression Grammar.primaryExpression := by
  apply Follows.rule
  apply Follows.choice
  · exact follows_literalConstant.map _
  · exact follows_simpleIdentifier.map _

theorem follows_expression : Follows expression Grammar.expression := by
  apply Follows.rule
  exact follows_primaryExpression.map _

theorem follows_propertyDeclaration :
    Follows propertyDeclaration Grammar.propertyDeclaration := by
  apply Follows.rule
  apply (Follows.expect _).bind
  intro keyword
  apply follows_simpleIdentifier.bind
  intro name
  apply Follows.choice
  · apply Follows.consume.bind
    intro sign
    exact follows_expression.map _
  · exact .pure _

theorem follows_type : Follows type Grammar.type := by
  apply Follows.rule
  exact follows_simpleIdentifier.map _

theorem follows_functionValueParameter :
    Follows functionValueParameter Grammar.functionValueParameter := by
  apply Follows.rule
  apply follows_simpleIdentifier.bind
  intro name
  apply (Follows.expect _).bind
  intro colon
  exact follows_type.map _

theorem furtherParameter_rel (s : Symbol) :
    Option.Rel Follows (furtherParameter s) (Grammar.furtherParameter s) := by
  cases s with
  | comma =>
    constructor
    apply Follows.consume.bind
    intro comma
    exact follows_functionValueParameter.map _
  | _ => exact .none

theorem follows_parameterList : Follows parameterList Grammar.parameterList := by
  apply Follows.choice
  · apply follows_functionValueParameter.bind
    intro first
    exact (Follows.many furtherParameter_rel).map _
  · exact .pure _

theorem follows_closingParen : Follows closingParen Grammar.closingParen := by
  apply Follows.choice
  · exact Follows.consume.map _
  · exact (Follows.report _ _).map _

theorem follows_functionValueParameters :
    Follows functionValueParameters Grammar.functionValueParameters := by
  apply Follows.rule
  apply (Follows.expect _).bind
  intro opening
  apply follows_parameterList.bind
  intro parameters
  exact follows_closingParen.map _

theorem semisItem_rel (s : Symbol) :
    Option.Rel Follows (semisItem s) (Grammar.semisItem s) := by
  cases s with
  | newline => exact .some (Follows.consume.map _)
  | semicolon => exact .some (Follows.consume.map _)
  | _ => exact .none

theorem follows_semis : Follows semis Grammar.semis := by
  apply Follows.rule
  exact (Follows.many semisItem_rel).map _

theorem follows_extraneous (expected : String) :
    Follows (extraneous expected) (Grammar.extraneous expected) := by
  apply (Follows.report _ _).bind
  intro _
  exact Follows.consume.map _

section Nested

variable {list : Run ConcreteTree} {nested : Parser ConcreteTree}

theorem follows_block (h : Follows list nested) : Follows (block list) (Grammar.block nested) := by
  apply Follows.rule
  apply (Follows.expect _).bind
  intro opening
  apply h.bind
  intro body
  exact (Follows.expect _).map _

theorem follows_functionBody (h : Follows list nested) :
    Follows (functionBody list) (Grammar.functionBody nested) := by
  apply Follows.rule
  exact (follows_block h).map _

theorem follows_functionDeclaration (h : Follows list nested) :
    Follows (functionDeclaration list) (Grammar.functionDeclaration nested) := by
  apply Follows.rule
  apply (Follows.expect _).bind
  intro keyword
  apply follows_simpleIdentifier.bind
  intro name
  apply follows_functionValueParameters.bind
  intro parameters
  apply Follows.choice
  · exact (follows_functionBody h).map _
  · exact .pure _

theorem follows_declaration (h : Follows list nested) :
    Follows (declaration list) (Grammar.declaration nested) := by
  apply Follows.rule
  apply Follows.choice
  · exact follows_propertyDeclaration.map _
  · exact (follows_functionDeclaration h).map _

theorem follows_statement (h : Follows list nested) :
    Follows (statement list) (Grammar.statement nested) := by
  apply Follows.rule
  apply Follows.choice
  · exact (follows_declaration h).map _
  · exact follows_expression.map _

theorem statementsItem_rel (h : Follows list nested) (s : Symbol) :
    Option.Rel Follows (statementsItem list s) (Grammar.statementsItem nested s) := by
  have hstatement : Option.Rel Follows (some (statement list >>= fun t => pure [t]))
      (some (Grammar.statement nested >>= fun t => pure [t])) := .some ((follows_statement h).map _)
  have hsemis : Option.Rel Follows (some (semis >>= fun t => pure [t]))
      (some (Grammar.semis >>= fun t => pure [t])) := .some (follows_semis.map _)
  cases s with
  | rightBrace | endOfInput => exact .none
  | newline | semicolon => exact hsemis
  | funKeyword | valKeyword | identifier | integer => exact hstatement
  | _ => exact .some (follows_extraneous _)

end Nested

theorem follows_statements : Follows statements Grammar.statements := by
  intro w
  induction hn : w.cursor.size using Nat.strongRecOn generalizing w with
  | ind n ih =>
    subst hn
    rw [statements, Grammar.statements]
    -- a block that begins no further on is empty on either side
    have hnested : Follows
        (fun inner => if _h : inner.cursor.size < w.cursor.size then statements inner
          else (node .statements [], inner))
        (fun inner => if _h : inner.size < w.cursor.size then Grammar.statements inner
          else ⟨node .statements [], inner, []⟩) := by
      intro inner
      beta_reduce
      split
      · next hlt => exact ih _ hlt inner rfl
      · rw [Work.after_nil]
    have hloop := Follows.many (statementsItem_rel hnested)
    exact (hloop.map (node .statements)).rule .statements w

theorem follows_topLevelObject : Follows topLevelObject Grammar.topLevelObject := by
  apply Follows.rule
  apply (follows_declaration follows_statements).bind
  intro object
  apply Follows.choice
  · exact follows_semis.map _
  · exact .pure _

theorem fileItem_rel (s : Symbol) : Option.Rel Follows (fileItem s) (Grammar.fileItem s) := by
  have hobject : Option.Rel Follows (some (topLevelObject >>= fun t => pure [t]))
      (some (Grammar.topLevelObject >>= fun t => pure [t])) := .some (follows_topLevelObject.map _)
  cases s with
  | endOfInput => exact .none
  | newline => exact .some (Follows.consume.map _)
  | funKeyword | valKeyword => exact hobject
  | _ => exact .some (follows_extraneous _)

theorem follows_kotlinFile : Follows kotlinFile Grammar.kotlinFile := by
  apply Follows.rule
  apply (Follows.many fileItem_rel).bind
  intro objects
  exact Follows.consume.map _

theorem follows_parseFrom (rule : Nat) : Follows (parseFrom rule) (Grammar.parseFrom rule) := by
  apply Follows.ite
  · exact follows_kotlinFile
  apply Follows.ite
  · exact follows_declaration follows_statements
  apply Follows.ite
  · exact follows_statements
  apply Follows.ite
  · exact follows_expression
  · exact .pure _

/-- A source text is built as if all its rules had been entered afterwards. -/
theorem buildWith_eq (b : TreeBuilder) (engine : BoundedEngine) (memo : ContextMemo Visit)
    (source : String) :
    let result := b.build recognizer source
    buildWith b engine memo source = (result.built,
      { engine with engine := engine.engine.record result.visits },
      memo.internAll result.visits) := by
  intro result
  simp only [buildWith, result, TreeBuilder.build]
  cases recognizer.ruleIndex? b.rootRule with
  | none => rfl
  | some index =>
    have hparse := follows_parseFrom index ⟨⟨(tokenize source).1, 0⟩, [], engine.engine, memo⟩
    simp only [hparse]
    rfl

theorem build_eq (b : TreeBuilder) (engine : Engine) (memo : ContextMemo Visit)
    (source : String) :
    let result := b.build recognizer source
    let bounded := engine.bound b.ceiling memo
    build b engine memo source = (result.built,
      { bounded.1 with engine := bounded.1.engine.record result.visits },
      bounded.2.internAll result.visits) := buildWith_eq ..

end Entering

/-! A session that enters what was visited after each parse does what the engines do that enter it
in the course of the parse. -/
namespace Session

variable {s : Session}

theorem buildWith_eq_entering (hs : s.recognizer = Grammar.recognizer) (b : BoundedEngine)
    (source : String) :
    let run := Entering.buildWith s.builder b s.memo source
    s.buildWith b source = (run.1, run.2.1, { s with memo := run.2.2 }) := by
  intro run
  obtain ⟨r, builder, memo⟩ := s
  obtain rfl : r = Grammar.recognizer := hs
  have hrun := Entering.buildWith_eq builder b memo source
  simp only [run, hrun]
  rfl

theorem parse_eq_entering (hs : s.recognizer = Grammar.recognizer) (source : String) :
    let run := Entering.build s.builder .fresh s.memo source
    s.parse source = (run.1, { s with memo := run.2.2 }) := by
  intro run
  have hrun := buildWith_eq_entering (s := s.engine.2) hs s.engine.1 source
  calc s.parse source = ((s.engine.2.buildWith s.engine.1 source).1,
        (s.engine.2.buildWith s.engine.1 source).2.2) := rfl
    _ = (run.1, { s with memo := run.2.2 }) := by rw [hrun]; rfl

theorem parseConcrete_eq_entering (hs : s.recognizer = Grammar.recognizer) (b : BoundedEngine)
    (source : String) :
    let run := Entering.parseConcrete b s.memo source
    s.parseConcrete b source = (run.1, run.2.1, { s with memo := run.2.2 }) := by
  intro run
  obtain ⟨r, builder, memo⟩ := s
  obtain rfl : r = Grammar.recognizer := hs
  have hrun := Entering.follows_parseFrom 0 ⟨⟨(Grammar.tokenize source).1, 0⟩, [], b.engine, memo⟩
  simp only [run, Entering.parseConcrete, hrun]
  rfl

end Session

end GoldenTree.Recognition
