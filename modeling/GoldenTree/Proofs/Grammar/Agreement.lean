import GoldenTree.Recognition.Recognizer
import GoldenTree.Text.LineBreak
import Mathlib.Data.Option.Defs
import Mathlib.Tactic.Common

/-! Parsing token lists that look alike. A parser decides by the types of the tokens alone, so that
two lists whose tokens have the same types, lines and texts but for line breaks give trees that look
alike and errors on the same lines. -/
namespace GoldenTree

open Text

/-- What trees and the lines of errors show of a token. -/
def Token.coarse (t : Token) : Token :=
  ⟨t.type, String.ofList (escapeBreaks t.text.toList), ⟨t.position.line, 1⟩⟩

theorem Token.type_of_coarse {t u : Token} (h : t.coarse = u.coarse) : t.type = u.type :=
  (Token.mk.inj h).1

theorem Token.line_of_coarse {t u : Token} (h : t.coarse = u.coarse) :
    t.position.line = u.position.line := (Position.mk.inj (Token.mk.inj h).2.2).1

namespace ConcreteTree

mutual

/-- What the tree shows of its tokens. -/
def coarse : ConcreteTree → ConcreteTree
  | rule index slots => rule index (coarseSlots slots)
  | terminal token => terminal token.coarse

def coarseSlots : List (Option ConcreteTree) → List (Option ConcreteTree)
  | [] => []
  | none :: slots => none :: coarseSlots slots
  | some tree :: slots => some tree.coarse :: coarseSlots slots

end

@[simp] theorem coarseSlots_append (s t : List (Option ConcreteTree)) :
    coarseSlots (s ++ t) = coarseSlots s ++ coarseSlots t := by
  induction s with
  | nil => rfl
  | cons slot s ih => cases slot <;> simp [coarseSlots, ih]

@[simp] theorem coarseSlots_map_some (ts : List ConcreteTree) :
    coarseSlots (ts.map some) = (ts.map coarse).map some := by
  induction ts with
  | nil => rfl
  | cons t ts ih => simp [coarseSlots, ih]

end ConcreteTree

namespace Grammar

open GoldenTree.Grammar.Parser
open ConcreteTree (coarse coarseSlots coarseSlots_append coarseSlots_map_some)

@[simp] theorem coarse_node (r : Rule) (ts : List ConcreteTree) :
    (node r ts).coarse = node r (ts.map coarse) := by
  simp [node, coarse]

namespace Cursor

/-- The tokens at hand look alike. -/
def Alike (c d : Cursor) : Prop := c.rest.map Token.coarse = d.rest.map Token.coarse

namespace Alike

variable {c d : Cursor}

/-- There are tokens at hand at both places or at none. -/
theorem cases (h : c.Alike d) : (c.rest = [] ∧ d.rest = []) ∨
    ∃ t rest u rest', c.rest = t :: rest ∧ d.rest = u :: rest' ∧ t.coarse = u.coarse ∧
      rest.map Token.coarse = rest'.map Token.coarse := by
  cases hc : c.rest with
  | nil =>
    rw [Alike, hc, List.map_nil, eq_comm, List.map_eq_nil_iff] at h
    exact .inl ⟨rfl, h⟩
  | cons t rest =>
    rw [Alike, hc, List.map_cons, eq_comm, List.map_eq_cons_iff] at h
    obtain ⟨u, rest', hd, hfirst, hrest⟩ := h
    exact .inr ⟨t, rest, u, rest', rfl, hd, hfirst.symm, hrest.symm⟩

theorem symbol (h : c.Alike d) : c.symbol = d.symbol := by
  rcases h.cases with ⟨hc, hd⟩ | ⟨t, rest, u, rest', hc, hd, hfirst, -⟩
  · simp [Cursor.symbol, hc, hd]
  · simp [Cursor.symbol, hc, hd, Token.symbol, Token.type_of_coarse hfirst]

theorem line (h : c.Alike d) : c.position.line = d.position.line := by
  rcases h.cases with ⟨hc, hd⟩ | ⟨t, rest, u, rest', hc, hd, hfirst, -⟩
  · simp [Cursor.position, hc, hd]
  · simp [Cursor.position, hc, hd, Token.line_of_coarse hfirst]

theorem size (h : c.Alike d) : c.size = d.size := by
  have hlength := congrArg List.length h
  rwa [List.length_map, List.length_map] at hlength

end Alike

end Cursor

/-- The lines of the errors among the events. -/
def errorLines (events : List Event) : List Nat :=
  (events.filterMap Event.error?).map (·.position.line)

@[simp] theorem errorLines_append (e f : List Event) :
    errorLines (e ++ f) = errorLines e ++ errorLines f := by
  simp [errorLines]

variable {α β α' β' : Type} {view : α → α'} {view' : β → β'} {p q : Parser α}

/-- Two steps whose values are the same to the view. -/
structure StepsAgree (view : α → α') (x y : Step α) : Prop where
  value : view x.value = view y.value
  cursor : x.cursor.Alike y.cursor
  lines : errorLines x.events = errorLines y.events

/-- The parsers take places that look alike to steps that agree. -/
def Agree (view : α → α') (p q : Parser α) : Prop :=
  ∀ c d : Cursor, c.Alike d → StepsAgree view (p c) (q d)

namespace Agree

theorem pure {a b : α} (h : view a = view b) :
    Agree view (Pure.pure a : Parser α) (Pure.pure b) := fun _ _ halike => ⟨h, halike, rfl⟩

theorem bind {f g : α → Parser β} (h : Agree view p q)
    (h' : ∀ a b, view a = view b → Agree view' (f a) (g b)) :
    Agree view' (p >>= f) (q >>= g) := by
  intro c d halike
  have first := h c d halike
  have second := h' _ _ first.value _ _ first.cursor
  exact ⟨second.value, second.cursor, by simp [first.lines, second.lines]⟩

theorem map {f g : α → β} (h : Agree view p q)
    (h' : ∀ a b, view a = view b → view' (f a) = view' (g b)) :
    Agree view' (p >>= fun a => Pure.pure (f a)) (q >>= fun a => Pure.pure (g a)) :=
  h.bind fun a b hab => pure (h' a b hab)

theorem ite {r s : Parser α} {P : Prop} [Decidable P] (h : Agree view p q)
    (h' : Agree view r s) : Agree view (if P then p else r) (if P then q else s) := by
  split
  · exact h
  · exact h'

theorem enter {r : Rule} (h : Agree view p q) :
    Agree view (Parser.enter r >>= fun _ => p) (Parser.enter r >>= fun _ => q) := by
  have hstep : Agree id (Parser.enter r) (Parser.enter r) := fun _ _ halike => ⟨rfl, halike, rfl⟩
  exact hstep.bind fun _ _ _ => h

theorem report {before after : String} (h : Agree view p q) :
    Agree view (Parser.report before after >>= fun _ => p)
      (Parser.report before after >>= fun _ => q) := by
  have hstep : Agree id (Parser.report before after) (Parser.report before after) :=
    fun _ _ halike => ⟨rfl, halike, congrArg (fun line => [line]) halike.line⟩
  exact hstep.bind fun _ _ _ => h

theorem lookahead {f g : Symbol → Parser α} (h : ∀ s, Agree view (f s) (g s)) :
    Agree view (Parser.lookahead >>= f) (Parser.lookahead >>= g) := by
  have hstep : Agree id Parser.lookahead Parser.lookahead :=
    fun _ _ halike => ⟨halike.symbol, halike, rfl⟩
  refine hstep.bind fun s s' hs => ?_
  obtain rfl : s = s' := hs
  exact h s

theorem consume : Agree coarse Parser.consume Parser.consume := by
  intro c d halike
  rcases halike.cases with ⟨hc, hd⟩ | ⟨t, rest, u, rest', hc, hd, hfirst, hrest⟩
  · simp only [Parser.consume, hc, hd]
    exact ⟨rfl, halike, rfl⟩
  · have htree : (ConcreteTree.terminal t).coarse = (ConcreteTree.terminal u).coarse :=
      congrArg ConcreteTree.terminal hfirst
    have hend : t.isEnd = u.isEnd := by
      rw [Token.isEnd, Token.isEnd, Token.type_of_coarse hfirst]
    have hempty : rest.isEmpty = rest'.isEmpty := by
      have hsame := congrArg List.isEmpty hrest
      rwa [List.isEmpty_map, List.isEmpty_map] at hsame
    simp only [Parser.consume, hc, hd, hend, hempty]
    split
    · exact ⟨htree, halike, rfl⟩
    · refine ⟨htree, ?_, rfl⟩
      show List.map _ _ = List.map _ _
      split
      · simpa using hfirst
      · exact hrest

theorem expect (s : Symbol) :
    Agree (List.map coarse) (Parser.expect s) (Parser.expect s) := by
  refine .lookahead fun symbol => .ite (consume.map fun a b h => ?_) (.report (.pure rfl))
  simpa using h

/-- Items that agree can be repeated. -/
theorem many {item item' : Symbol → Option (Parser (List α))}
    (h : ∀ s, Option.Rel (Agree (List.map view)) (item s) (item' s)) :
    Agree (List.map view) (Parser.many item) (Parser.many item') := by
  intro c d halike
  induction hn : c.size using Nat.strongRecOn generalizing c d with
  | ind n ih =>
    subst hn
    have hitem := h d.symbol
    rw [Parser.many, Parser.many, halike.symbol]
    generalize item d.symbol = p?, item' d.symbol = q? at hitem
    cases hitem with
    | none => exact ⟨rfl, halike, rfl⟩
    | some hpq =>
      have first := hpq c d halike
      simp only [halike.size, first.cursor.size]
      split
      · next hlt =>
        have others := ih _ (by rw [halike.size, first.cursor.size]; exact hlt) _ _ first.cursor rfl
        exact ⟨by simp [first.value, others.value], others.cursor,
          by simp [first.lines, others.lines]⟩
      · exact first

/-- The node of a rule over one tree. -/
theorem nodeOne {r : Rule} {p q : Parser ConcreteTree} (h : Agree coarse p q) :
    Agree coarse (p >>= fun t => Pure.pure (node r [t])) (q >>= fun t => Pure.pure (node r [t])) :=
  h.map fun a b hab => by simp [hab]

/-- The node of a rule over a list of trees. -/
theorem nodeAll {r : Rule} {p q : Parser (List ConcreteTree)} (h : Agree (List.map coarse) p q) :
    Agree coarse (p >>= fun ts => Pure.pure (node r ts)) (q >>= fun ts => Pure.pure (node r ts)) :=
  h.map fun a b hab => by simp [hab]

/-- One tree as a list. -/
theorem alone {p q : Parser ConcreteTree} (h : Agree coarse p q) :
    Agree (List.map coarse) (p >>= fun t => Pure.pure [t]) (q >>= fun t => Pure.pure [t]) :=
  h.map fun a b hab => by simp [hab]

end Agree

/-! Every parser of the grammar agrees with itself. -/

theorem agree_simpleIdentifier : Agree coarse simpleIdentifier simpleIdentifier :=
  .enter (Agree.nodeAll (.expect _))

theorem agree_literalConstant : Agree coarse literalConstant literalConstant :=
  .enter (Agree.nodeOne .consume)

theorem agree_primaryExpression : Agree coarse primaryExpression primaryExpression :=
  .enter (.lookahead fun _ => .ite agree_literalConstant.nodeOne agree_simpleIdentifier.nodeOne)

theorem agree_expression : Agree coarse expression expression :=
  .enter agree_primaryExpression.nodeOne

theorem agree_propertyDeclaration : Agree coarse propertyDeclaration propertyDeclaration := by
  refine .enter ((Agree.expect _).bind fun keyword keyword' hkeyword => ?_)
  refine agree_simpleIdentifier.bind fun name name' hname => ?_
  refine .lookahead fun symbol => .ite ?_ (.pure (by simp [hkeyword, hname]))
  refine Agree.consume.bind fun sign sign' hsign => ?_
  exact agree_expression.map fun value value' hvalue => by simp [hkeyword, hname, hsign, hvalue]

theorem agree_type : Agree coarse type type := .enter agree_simpleIdentifier.nodeOne

theorem agree_functionValueParameter :
    Agree coarse functionValueParameter functionValueParameter := by
  refine .enter (agree_simpleIdentifier.bind fun name name' hname => ?_)
  refine (Agree.expect _).bind fun colon colon' hcolon => ?_
  exact agree_type.map fun kind kind' hkind => by simp [hname, hcolon, hkind]

theorem agree_furtherParameter (s : Symbol) :
    Option.Rel (Agree (List.map coarse)) (furtherParameter s) (furtherParameter s) := by
  cases s with
  | comma =>
    refine .some (Agree.consume.bind fun comma comma' hcomma => ?_)
    exact agree_functionValueParameter.map fun parameter parameter' hparameter => by
      simp [hcomma, hparameter]
  | _ => exact .none

theorem agree_parameterList : Agree (List.map coarse) parameterList parameterList := by
  refine .lookahead fun symbol => .ite ?_ (.pure rfl)
  refine agree_functionValueParameter.bind fun first first' hfirst => ?_
  exact (Agree.many agree_furtherParameter).map fun others others' hothers => by
    simp [hfirst, hothers]

theorem agree_closingParen : Agree (List.map coarse) closingParen closingParen :=
  .lookahead fun _ => .ite (Agree.alone .consume) (.report (.pure rfl))

theorem agree_functionValueParameters :
    Agree coarse functionValueParameters functionValueParameters := by
  refine .enter ((Agree.expect _).bind fun opening opening' hopening => ?_)
  refine agree_parameterList.bind fun parameters parameters' hparameters => ?_
  exact agree_closingParen.map fun closing closing' hclosing => by
    simp [hopening, hparameters, hclosing]

theorem agree_semisItem (s : Symbol) :
    Option.Rel (Agree (List.map coarse)) (semisItem s) (semisItem s) := by
  cases s with
  | newline => exact .some (Agree.alone .consume)
  | semicolon => exact .some (Agree.alone .consume)
  | _ => exact .none

theorem agree_semis : Agree coarse semis semis :=
  .enter (Agree.nodeAll (.many agree_semisItem))

theorem agree_extraneous (expected : String) :
    Agree (List.map coarse) (extraneous expected) (extraneous expected) :=
  .report (Agree.alone .consume)

section Nested

variable {nested nested' : Parser ConcreteTree} (h : Agree coarse nested nested')
include h

theorem agree_block : Agree coarse (block nested) (block nested') := by
  refine .enter ((Agree.expect _).bind fun opening opening' hopening => ?_)
  refine h.bind fun body body' hbody => ?_
  exact (Agree.expect _).map fun closing closing' hclosing => by
    simp [hopening, hbody, hclosing]

theorem agree_functionBody : Agree coarse (functionBody nested) (functionBody nested') :=
  .enter (agree_block h).nodeOne

theorem agree_functionDeclaration :
    Agree coarse (functionDeclaration nested) (functionDeclaration nested') := by
  refine .enter ((Agree.expect _).bind fun keyword keyword' hkeyword => ?_)
  refine agree_simpleIdentifier.bind fun name name' hname => ?_
  refine agree_functionValueParameters.bind fun parameters parameters' hparameters => ?_
  have hhead : coarseSlots ((keyword ++ [name, parameters]).map some) =
      coarseSlots ((keyword' ++ [name', parameters']).map some) := by
    rw [coarseSlots_map_some, coarseSlots_map_some]
    simp [hkeyword, hname, hparameters]
  refine .lookahead fun symbol => .ite ?_ (.pure ?_)
  · refine (agree_functionBody h).map fun body body' hbody => ?_
    simp only [coarse, coarseSlots_append, hhead, coarseSlots, hbody]
  · simp only [coarse, coarseSlots_append, hhead, coarseSlots]

theorem agree_declaration : Agree coarse (declaration nested) (declaration nested') :=
  .enter (.lookahead fun _ =>
    .ite agree_propertyDeclaration.nodeOne (agree_functionDeclaration h).nodeOne)

theorem agree_statement : Agree coarse (statement nested) (statement nested') :=
  .enter (.lookahead fun _ => .ite (agree_declaration h).nodeOne agree_expression.nodeOne)

theorem agree_statementsItem (s : Symbol) :
    Option.Rel (Agree (List.map coarse)) (statementsItem nested s) (statementsItem nested' s) := by
  cases s with
  | rightBrace => exact .none
  | endOfInput => exact .none
  | newline => exact .some agree_semis.alone
  | semicolon => exact .some agree_semis.alone
  | funKeyword => exact .some (agree_statement h).alone
  | valKeyword => exact .some (agree_statement h).alone
  | identifier => exact .some (agree_statement h).alone
  | integer => exact .some (agree_statement h).alone
  | _ => exact .some (agree_extraneous _)

end Nested

/-- By induction on how many tokens are left, the same at both places. -/
theorem agree_statements : Agree coarse statements statements := by
  intro c d halike
  induction hn : c.size using Nat.strongRecOn generalizing c d with
  | ind n ih =>
    subst hn
    rw [statements, statements]
    refine Agree.enter (Agree.nodeAll (.many (agree_statementsItem ?_))) c d halike
    intro inner inner' hinner
    simp only [hinner.size, halike.size]
    split
    · next hlt =>
      exact ih inner.size (by rw [hinner.size, halike.size]; exact hlt) inner inner' hinner rfl
    · exact ⟨rfl, hinner, rfl⟩

theorem agree_topLevelObject : Agree coarse topLevelObject topLevelObject := by
  refine .enter ((agree_declaration agree_statements).bind fun object object' hobject => ?_)
  refine .lookahead fun symbol => .ite ?_ (.pure (by simp [hobject]))
  exact agree_semis.map fun breaks breaks' hbreaks => by simp [hobject, hbreaks]

theorem agree_fileItem (s : Symbol) :
    Option.Rel (Agree (List.map coarse)) (fileItem s) (fileItem s) := by
  cases s with
  | endOfInput => exact .none
  | newline => exact .some (Agree.alone .consume)
  | funKeyword => exact .some agree_topLevelObject.alone
  | valKeyword => exact .some agree_topLevelObject.alone
  | _ => exact .some (agree_extraneous _)

theorem agree_kotlinFile : Agree coarse kotlinFile kotlinFile := by
  refine .enter ((Agree.many agree_fileItem).bind fun objects objects' hobjects => ?_)
  exact Agree.consume.map fun ending ending' hending => by simp [hobjects, hending]

theorem agree_parseFrom (rule : Nat) : Agree coarse (parseFrom rule) (parseFrom rule) :=
  .ite agree_kotlinFile (.ite (agree_declaration agree_statements)
    (.ite agree_statements (.ite agree_expression (.pure rfl))))

/-- Token lists that look alike have trees that look alike and errors on the same lines. -/
theorem parse_alike {tokens tokens' : List Token}
    (h : tokens.map Token.coarse = tokens'.map Token.coarse) (rule : Nat) :
    (parse tokens rule).tree.coarse = (parse tokens' rule).tree.coarse ∧
      (parse tokens rule).errors.map (·.position.line) =
        (parse tokens' rule).errors.map (·.position.line) := by
  have hsteps := agree_parseFrom rule ⟨tokens, 0⟩ ⟨tokens', 0⟩ h
  exact ⟨hsteps.value, hsteps.lines⟩

end Grammar

end GoldenTree
