import GoldenTree.ConcreteTree
import GoldenTree.Grammar.Rule
import GoldenTree.Grammar.Symbol

/-! What the grammar derives, and when a tree is a derivation. A valid tree derives the symbols of
its tokens. -/
namespace GoldenTree.Grammar

/-- What stands in a row of a derivation: a symbol or a rule still to be expanded. -/
inductive Part where
  | symbol (symbol : Symbol)
  | rule (rule : Rule)
  deriving Repr, DecidableEq

/-- Right-hand sides of rules. -/
inductive Body where
  | part (part : Part)
  | empty
  | seq (first second : Body)
  | alt (left right : Body)
  | many (item : Body)
  deriving Repr, DecidableEq

namespace Body

def symbol (s : Symbol) : Body := part (.symbol s)

def rule (r : Rule) : Body := part (.rule r)

def optional (item : Body) : Body := alt item empty

/-- Bodies one after another. -/
def sequence (bodies : List Body) : Body := bodies.foldr seq empty

/-- The rows of parts that a body stands for. -/
inductive Produces : Body → List Part → Prop where
  | part (p : Part) : Produces (part p) [p]
  | empty : Produces empty []
  | seq {a b : Body} {u v : List Part} (first : Produces a u) (second : Produces b v) :
      Produces (seq a b) (u ++ v)
  | left {a b : Body} {u : List Part} (chosen : Produces a u) : Produces (alt a b) u
  | right {a b : Body} {u : List Part} (chosen : Produces b u) : Produces (alt a b) u
  | none {a : Body} : Produces (many a) []
  | more {a : Body} {u v : List Part} (item : Produces a u) (others : Produces (many a) v) :
      Produces (many a) (u ++ v)

theorem produces_part_iff {p : Part} {u : List Part} : Produces (part p) u ↔ u = [p] := by
  constructor
  · intro h
    cases h
    rfl
  · rintro rfl
    exact .part p

end Body

open Body in
/-- The productions, one for each rule. -/
def Rule.body : Rule → Body
  | kotlinFile =>
    sequence [many (symbol .newline), many (rule topLevelObject), symbol .endOfInput]
  | topLevelObject => sequence [rule declaration, optional (rule semis)]
  | declaration => alt (rule functionDeclaration) (rule propertyDeclaration)
  | functionDeclaration =>
    sequence [symbol .funKeyword, rule simpleIdentifier, rule functionValueParameters,
      optional (rule functionBody)]
  | functionValueParameters =>
    sequence [symbol .leftParen,
      optional (sequence [rule functionValueParameter,
        many (sequence [symbol .comma, rule functionValueParameter])]),
      symbol .rightParen]
  | functionValueParameter => sequence [rule simpleIdentifier, symbol .colon, rule type]
  | type => rule simpleIdentifier
  | functionBody => rule block
  | block => sequence [symbol .leftBrace, rule statements, symbol .rightBrace]
  | statements => many (alt (rule statement) (rule semis))
  | statement => alt (rule declaration) (rule expression)
  | propertyDeclaration =>
    sequence [symbol .valKeyword, rule simpleIdentifier,
      optional (sequence [symbol .assign, rule expression])]
  | expression => rule primaryExpression
  | primaryExpression => alt (rule simpleIdentifier) (rule literalConstant)
  | literalConstant => symbol .integer
  | simpleIdentifier => symbol .identifier
  | semis =>
    let lineBreak := alt (symbol .semicolon) (symbol .newline)
    sequence [lineBreak, many lineBreak]

/-- The rows of symbols that a row of parts derives, the first rule being expanded at each step. -/
inductive Derives : List Part → List Symbol → Prop where
  | nil : Derives [] []
  | symbol {s : Symbol} {row : List Part} {word : List Symbol} (others : Derives row word) :
      Derives (.symbol s :: row) (s :: word)
  | rule {r : Rule} {new row : List Part} {word : List Symbol} (production : r.body.Produces new)
      (expanded : Derives (new ++ row) word) : Derives (.rule r :: row) word

theorem Derives.append {row row' : List Part} {word word' : List Symbol} (h : Derives row word)
    (h' : Derives row' word') : Derives (row ++ row') (word ++ word') := by
  induction h with
  | nil => exact h'
  | symbol _ ih => exact .symbol ih
  | rule production _ ih =>
    rw [List.append_assoc] at ih
    exact .rule production ih

/-- What a node stands for; an index outside the rule table stands for nothing. -/
def part? : ConcreteTree → Option Part
  | .rule index _ => Rule.all[index]?.map .rule
  | .terminal token => some (.symbol token.symbol)

/-- A tree in which the parts of each rule node's children, empty slots left out, are produced by
the body of its rule. -/
inductive IsDerivation : ConcreteTree → Prop where
  | terminal (token : Token) : IsDerivation (.terminal token)
  | rule {r : Rule} {slots : List (Option ConcreteTree)} {row : List Part}
      (parts : (slots.filterMap id).map part? = row.map some) (production : r.body.Produces row)
      (nested : ∀ t, some t ∈ slots → IsDerivation t) : IsDerivation (.rule r.index slots)

/-- A forest of trees that derive their tokens derives the tokens of all. -/
theorem derives_slotTokens {slots : List (Option ConcreteTree)} {row : List Part}
    (parts : (slots.filterMap id).map part? = row.map some)
    (nested : ∀ t, some t ∈ slots → ∀ p, part? t = some p →
      Derives [p] (t.tokens.map Token.symbol)) :
    Derives row ((ConcreteTree.slotTokens slots).map Token.symbol) := by
  induction slots generalizing row with
  | nil =>
    obtain rfl : row = [] := by simpa using parts.symm
    exact .nil
  | cons slot slots ih =>
    cases slot with
    | none =>
      exact ih (by simpa using parts) fun t ht => nested t (List.mem_cons_of_mem _ ht)
    | some t =>
      cases row with
      | nil => simp at parts
      | cons p row =>
        obtain ⟨head, tail⟩ :
            part? t = some p ∧ (slots.filterMap id).map part? = row.map some := by
          simpa using parts
        have first := nested t (List.mem_cons_self ..) p head
        have others := ih tail fun u hu => nested u (List.mem_cons_of_mem _ hu)
        simpa [ConcreteTree.slotTokens] using first.append others

/-- The symbols of a derivation's tokens are derived by what its root stands for. -/
theorem IsDerivation.derives {t : ConcreteTree} (h : IsDerivation t) {p : Part}
    (hp : part? t = some p) : Derives [p] (t.tokens.map Token.symbol) := by
  induction h generalizing p with
  | terminal token =>
    obtain rfl : Part.symbol token.symbol = p := by simpa [part?] using hp
    exact .symbol .nil
  | rule parts production _ ih =>
    obtain rfl : Part.rule _ = p := by
      simpa [part?, Rule.getElem?_all_index] using hp
    have expanded := derives_slotTokens parts fun t ht p hp => ih t ht hp
    exact .rule production (by simpa [ConcreteTree.tokens] using expanded)

end GoldenTree.Grammar
