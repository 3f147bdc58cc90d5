import GoldenTree.Proofs.Text.Position
import GoldenTree.Recognition.Recognizer
import Mathlib.Data.List.Infix

/-! What a parser can do to its place. Whatever it parses, it walks along the tokens: it enters
rules where it stands, reports errors about the token at hand, and takes that token. So every error
is about some token, and errors come in the order of the tokens. -/
namespace GoldenTree.Grammar

open GoldenTree.Grammar.Parser
open Text

/-- A way from one place to another, with the events on it. -/
inductive Walk : Cursor → List Event → Cursor → Prop
  | stay (c : Cursor) : Walk c [] c
  | enter {c d : Cursor} {events : List Event} (r : Rule) (others : Walk c events d) :
      Walk c (.enter ⟨r.index, c.index, c.text⟩ :: events) d
  | report {c d : Cursor} {events : List Event} (message : String) (others : Walk c events d) :
      Walk c (.report ⟨c.position, message⟩ :: events) d
  | take {c d : Cursor} {events : List Event} (others : Walk (consume c).cursor events d) :
      Walk c events d

theorem Walk.append {c d e : Cursor} {events events' : List Event} (h : Walk c events d)
    (h' : Walk d events' e) : Walk c (events ++ events') e := by
  induction h with
  | stay c => exact h'
  | enter r _ ih => exact .enter r (ih h')
  | report message _ ih => exact .report message (ih h')
  | take _ ih => exact .take (ih h')

@[simp] theorem events_consume (c : Cursor) : (consume c).events = [] := by
  unfold consume
  split
  · rfl
  · split <;> rfl

variable {α β : Type} {p : Parser α}

/-- From every place, the parser walks to where it stops. -/
def Walks (p : Parser α) : Prop := ∀ c, Walk c (p c).events (p c).cursor

namespace Walks

theorem pure (a : α) : Walks (Pure.pure a : Parser α) := fun c => .stay c

theorem bind {f : α → Parser β} (h : Walks p) (h' : ∀ a, Walks (f a)) : Walks (p >>= f) :=
  fun c => (h c).append (h' _ _)

theorem map {f : α → β} (h : Walks p) : Walks (p >>= fun a => Pure.pure (f a)) :=
  h.bind fun _ => pure _

theorem ite {P : Prop} [Decidable P] {q : Parser α} (h : Walks p) (h' : Walks q) :
    Walks (if P then p else q) := by
  split
  · exact h
  · exact h'

theorem enter {r : Rule} (h : Walks p) : Walks (Parser.enter r >>= fun _ => p) :=
  fun c => .enter r (h c)

theorem report {before after : String} (h : Walks p) :
    Walks (Parser.report before after >>= fun _ => p) := fun c => .report _ (h c)

theorem lookahead {f : Symbol → Parser α} (h : ∀ s, Walks (f s)) :
    Walks (Parser.lookahead >>= f) := fun c => h c.symbol c

theorem consume : Walks Parser.consume := by
  intro c
  rw [events_consume]
  exact .take (.stay _)

theorem expect (s : Symbol) : Walks (Parser.expect s) :=
  .lookahead fun _ => .ite consume.map (.report (.pure _))

/-- By induction on how many tokens are left: each turn goes on where the one before stopped. -/
theorem many {item : Symbol → Option (Parser (List α))} (h : ∀ s, ∀ p ∈ item s, Walks p) :
    Walks (Parser.many item) := by
  intro c
  induction hn : c.size using Nat.strongRecOn generalizing c with
  | ind n ih =>
    subst hn
    rw [Parser.many]
    cases hitem : item c.symbol with
    | none => exact .stay c
    | some p =>
      have first : Walk c (p c).events (p c).cursor := h c.symbol p hitem c
      dsimp only
      split
      · next hlt => exact first.append (ih _ hlt _ rfl)
      · exact first

end Walks

/-! Every parser of the grammar walks. -/

theorem walks_simpleIdentifier : Walks simpleIdentifier := .enter (.map (.expect _))

theorem walks_literalConstant : Walks literalConstant := .enter (.map .consume)

theorem walks_primaryExpression : Walks primaryExpression :=
  .enter (.lookahead fun _ => .ite walks_literalConstant.map walks_simpleIdentifier.map)

theorem walks_expression : Walks expression := .enter walks_primaryExpression.map

theorem walks_propertyDeclaration : Walks propertyDeclaration := by
  refine .enter (.bind (.expect _) fun keyword => walks_simpleIdentifier.bind fun name => ?_)
  exact .lookahead fun _ => .ite (.bind .consume fun sign => walks_expression.map) (.pure _)

theorem walks_type : Walks type := .enter walks_simpleIdentifier.map

theorem walks_functionValueParameter : Walks functionValueParameter :=
  .enter (walks_simpleIdentifier.bind fun _ => .bind (.expect _) fun _ => walks_type.map)

theorem walks_furtherParameter (s : Symbol) : ∀ p ∈ furtherParameter s, Walks p := by
  intro p hp
  cases s <;> cases hp
  exact .bind .consume fun comma => walks_functionValueParameter.map

theorem walks_parameterList : Walks parameterList := by
  refine .lookahead fun _ => .ite ?_ (.pure _)
  exact walks_functionValueParameter.bind fun first => .map (.many walks_furtherParameter)

theorem walks_closingParen : Walks closingParen :=
  .lookahead fun _ => .ite (.map .consume) (.report (.pure _))

theorem walks_functionValueParameters : Walks functionValueParameters :=
  .enter (.bind (.expect _) fun _ => walks_parameterList.bind fun _ => walks_closingParen.map)

theorem walks_semisItem (s : Symbol) : ∀ p ∈ semisItem s, Walks p := by
  intro p hp
  cases s <;> cases hp <;> exact .map .consume

theorem walks_semis : Walks semis := .enter (.map (.many walks_semisItem))

theorem walks_extraneous (expected : String) : Walks (extraneous expected) :=
  .report (.map .consume)

section Nested

variable {nested : Parser ConcreteTree} (h : Walks nested)
include h

theorem walks_block : Walks (block nested) :=
  .enter (.bind (.expect _) fun _ => h.bind fun _ => .map (.expect _))

theorem walks_functionBody : Walks (functionBody nested) := .enter (walks_block h).map

theorem walks_functionDeclaration : Walks (functionDeclaration nested) := by
  refine .enter (.bind (.expect _) fun keyword => walks_simpleIdentifier.bind fun name => ?_)
  refine walks_functionValueParameters.bind fun parameters => ?_
  exact .lookahead fun _ => .ite (walks_functionBody h).map (.pure _)

theorem walks_declaration : Walks (declaration nested) :=
  .enter (.lookahead fun _ => .ite walks_propertyDeclaration.map (walks_functionDeclaration h).map)

theorem walks_statement : Walks (statement nested) :=
  .enter (.lookahead fun _ => .ite (walks_declaration h).map walks_expression.map)

theorem walks_statementsItem (s : Symbol) : ∀ p ∈ statementsItem nested s, Walks p := by
  intro p hp
  cases s with
  | rightBrace => cases hp
  | endOfInput => cases hp
  | newline => cases hp; exact walks_semis.map
  | semicolon => cases hp; exact walks_semis.map
  | funKeyword => cases hp; exact (walks_statement h).map
  | valKeyword => cases hp; exact (walks_statement h).map
  | identifier => cases hp; exact (walks_statement h).map
  | integer => cases hp; exact (walks_statement h).map
  | _ => cases hp; exact walks_extraneous _

end Nested

/-- By induction on how many tokens are left: a nested block has fewer. -/
theorem walks_statements : Walks statements := by
  intro c
  induction hn : c.size using Nat.strongRecOn generalizing c with
  | ind n ih =>
    subst hn
    rw [statements]
    refine Walks.enter (.map (.many (walks_statementsItem ?_))) c
    intro inner
    dsimp only
    split
    · next hlt => exact ih inner.size hlt inner rfl
    · exact .stay inner

theorem walks_topLevelObject : Walks topLevelObject :=
  .enter ((walks_declaration walks_statements).bind fun _ =>
    .lookahead fun _ => .ite walks_semis.map (.pure _))

theorem walks_fileItem (s : Symbol) : ∀ p ∈ fileItem s, Walks p := by
  intro p hp
  cases s with
  | endOfInput => cases hp
  | newline => cases hp; exact .map .consume
  | funKeyword => cases hp; exact walks_topLevelObject.map
  | valKeyword => cases hp; exact walks_topLevelObject.map
  | _ => cases hp; exact walks_extraneous _

theorem walks_kotlinFile : Walks kotlinFile :=
  .enter (.bind (.many walks_fileItem) fun _ => .map .consume)

theorem walks_parseFrom (rule : Nat) : Walks (parseFrom rule) :=
  .ite walks_kotlinFile (.ite (walks_declaration walks_statements)
    (.ite walks_statements (.ite walks_expression (.pure _))))

/-! What a walk reports. -/

variable {c d : Cursor} {events : List Event}

theorem rest_consume_suffix (c : Cursor) : (consume c).cursor.rest <:+ c.rest := by
  unfold consume
  split
  · exact List.suffix_refl _
  · next t rest hrest =>
    split
    · exact List.suffix_refl _
    · rw [hrest]
      cases rest with
      | nil => exact List.suffix_refl _
      | cons u rest => exact List.suffix_cons t _

/-- The last token stays. -/
theorem rest_consume_ne_nil (h : c.rest ≠ []) : (consume c).cursor.rest ≠ [] := by
  unfold consume
  split
  · exact h
  · next t rest hrest =>
    split
    · exact h
    · cases rest <;> simp

/-- Where there are tokens, every error is about one of them. -/
theorem Walk.exists_token (h : Walk c events d) (hc : c.rest ≠ []) :
    ∀ e ∈ events.filterMap Event.error?, ∃ t ∈ c.rest, t.position = e.position := by
  induction h with
  | stay c => simp
  | enter r _ ih => exact ih hc
  | report message _ ih =>
    intro e he
    rcases List.mem_cons.mp he with rfl | he
    · obtain ⟨t, rest, hrest⟩ := List.exists_cons_of_ne_nil hc
      exact ⟨t, by simp [hrest], by simp [Cursor.position, hrest]⟩
    · exact ih hc e he
  | @take c d events _ ih =>
    intro e he
    obtain ⟨t, ht, hposition⟩ := ih (rest_consume_ne_nil hc) e he
    exact ⟨t, (rest_consume_suffix c).subset ht, hposition⟩

/-- Where tokens stand one after the other, no token stands before the one at hand. -/
theorem Cursor.position_le (horder : c.rest.Pairwise (·.position < ·.position)) {t : Token}
    (ht : t ∈ c.rest) : c.position ≤ t.position := by
  cases hrest : c.rest with
  | nil => simp [hrest] at ht
  | cons first rest =>
    have hposition : c.position = first.position := by simp [Cursor.position, hrest]
    rw [hrest] at ht horder
    rw [hposition]
    rcases List.mem_cons.mp ht with rfl | ht
    · exact Position.le_refl _
    · exact Position.le_of_lt (List.rel_of_pairwise_cons horder ht)

/-- What is reported first is about the token at hand, which stands before all that are walked to
later. -/
theorem Walk.pairwise_errors (h : Walk c events d) (hc : c.rest ≠ [])
    (horder : c.rest.Pairwise (·.position < ·.position)) :
    (events.filterMap Event.error?).Pairwise (·.position ≤ ·.position) := by
  induction h with
  | stay c => exact List.Pairwise.nil
  | enter r _ ih => exact ih hc horder
  | report message others ih =>
    refine List.pairwise_cons.mpr ⟨fun e he => ?_, ih hc horder⟩
    obtain ⟨t, ht, hposition⟩ := others.exists_token hc e he
    exact hposition ▸ Cursor.position_le horder ht
  | @take c d events _ ih =>
    exact ih (rest_consume_ne_nil hc) (horder.sublist (rest_consume_suffix c).sublist)

end GoldenTree.Grammar
