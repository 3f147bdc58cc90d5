import GoldenTree.Grammar.Unguarded
import GoldenTree.Proofs.Grammar.Entries
import GoldenTree.Proofs.Recognition.Contents

/-! Parsing ends without the guards that make the parser total: loops turn and blocks nest only where
tokens are taken, so that no loop turns and no blocks nest for longer than there are tokens. -/
namespace GoldenTree.Grammar

open GoldenTree.Grammar.Parser
open Unguarded (Run once)

variable {α β : Type} {c : Cursor} {p : Parser α} {j k : Int} {fuel : Nat}

/-- The parser spends as much, and the unguarded run ends with what it yields. -/
structure Runs (q : Run α) (k : Int) (p : Parser α) (c : Cursor) : Prop extends Spends k p c where
  returns : ∀ events, q ⟨c, events⟩ = some ((p c).value, ⟨(p c).cursor, events ++ (p c).events⟩)

theorem Spends.once (h : Spends k p c) : Runs (once p) k p c := ⟨h, fun _ => rfl⟩

namespace Runs

variable {q : Run α}

theorem le (h : Runs q j p c) (hjk : j ≤ k) : Runs q k p c := ⟨h.toSpends.le hjk, h.returns⟩

theorem pure (a : α) (hk : 0 ≤ k) : Runs (Pure.pure a) k (Pure.pure a) c :=
  ⟨.pure a hk, fun events => by rw [pure_apply, List.append_nil]; rfl⟩

theorem andThen {g : α → Run β} {f : α → Parser β} (h : Runs q j p c)
    (h' : Runs (g (p c).value) (k - j) (f (p c).value) (p c).cursor) :
    Runs (q >>= g) k (p >>= f) c := by
  refine ⟨h.toSpends.andThen h'.toSpends, fun events => ?_⟩
  show (q ⟨c, events⟩).bind (fun r => g r.1 r.2) = _
  rw [h.returns, Option.bind_some, h'.returns, List.append_assoc]
  rfl

theorem bind {g : α → Run β} {f : α → Parser β} (h : Runs q j p c)
    (h' : ∀ a d, c.Reaches d → Runs (g a) (k - j) (f a) d) : Runs (q >>= g) k (p >>= f) c :=
  h.andThen (h' _ _ h.reaches)

theorem map (f : α → β) (h : Runs q k p c) :
    Runs (q >>= fun a => Pure.pure (f a)) k (p >>= fun a => Pure.pure (f a)) c :=
  h.bind fun _ _ _ => pure _ (by omega)

theorem ite {P : Prop} [Decidable P] {q' : Run α} {p' : Parser α} (h : P → Runs q k p c)
    (h' : ¬P → Runs q' k p' c) : Runs (if P then q else q') k (if P then p else p') c := by
  split
  · exact h ‹_›
  · exact h' ‹_›

theorem enter {r : Rule} (h : Runs q (k - 1) p c) :
    Runs (Unguarded.once (Parser.enter r) >>= fun _ => q) k (Parser.enter r >>= fun _ => p) c :=
  (spends_enter r c).once.andThen h

theorem lookahead {g : Symbol → Run α} {f : Symbol → Parser α}
    (h : Runs (g c.symbol) k (f c.symbol) c) :
    Runs (Unguarded.once Parser.lookahead >>= g) k (Parser.lookahead >>= f) c :=
  (spends_lookahead c).once.andThen (h.le (by omega))

theorem congr {q' : Run α} {p' : Parser α} (hq : q' = q) (hp : p' c = p c) (h : Runs q k p c) :
    Runs q' k p' c := by
  subst hq
  obtain ⟨⟨hreaches, hentries⟩, hreturns⟩ := h
  rw [← hp] at hreaches hentries
  exact ⟨⟨hreaches, hentries⟩, fun events => by rw [hreturns, hp]⟩

end Runs

/-- Where turns move on, it is not the guard that ends the loop. -/
theorem many_apply {item : Symbol → Option (Parser (List α))}
    (h : ∀ p, item c.symbol = some p → (p c).cursor.size < c.size) :
    many item c = (Parser.lookahead >>= fun s => match item s with
      | none => pure []
      | some p => p >>= fun first => (many item : Parser (List α)) >>= fun others =>
          pure (first ++ others)) c := by
  rw [many]
  cases hitem : item c.symbol with
  | none => simp [Parser.lookahead, hitem]
  | some p => simp [Parser.lookahead, hitem, h p hitem]

/-- There is an item on either side or on neither; it moves on and spends `k`. -/
def Turns (k : Int) (c : Cursor) (q? : Option (Run (List α))) (p? : Option (Parser (List α))) :
    Prop :=
  Option.Rel (fun q p => Runs q k p c ∧ (p c).cursor.size < c.size) q? p?

theorem Turns.le {q? : Option (Run (List α))} {p? : Option (Parser (List α))}
    (h : Turns j c q? p?) (hjk : j ≤ k) : Turns k c q? p? := by
  cases h with
  | none => exact .none
  | some h => exact .some ⟨h.1.le hjk, h.2⟩

namespace Runs

variable {q : Run (List α)} {p : Parser (List α)} {item' : Symbol → Option (Run (List α))}
  {item : Symbol → Option (Parser (List α))}

/-- A run moves on if it enters more rules than the tokens that stay could pay for. -/
theorem turns (h : Runs q k p c) (hk : k < entries (p c).events) : Turns k c (some q) (some p) :=
  .some ⟨h, h.shorter hk⟩

theorem turns_of_neg (h : Runs q k p c) (hk : k < 0) : Turns k c (some q) (some p) :=
  h.turns (by omega)

/-- A rule may spend all that its tokens pay for: it enters itself. -/
theorem turns_of_enter {rule : Run β} {r : Rule} {body : Parser β}
    (h : Runs rule 0 (Parser.enter r >>= fun _ => body) c) (f : β → List α) :
    Turns 0 c (some (rule >>= fun b => Pure.pure (f b)))
      (some ((Parser.enter r >>= fun _ => body) >>= fun b => Pure.pure (f b))) := by
  refine (h.map f).turns ?_
  simp only [bind_apply, Parser.enter, entries_append, entries_enter]
  omega

/-- One turn of a loop, on which fewer tokens are left for the others. -/
theorem turn (hturn : Turns k c (item' c.symbol) (item c.symbol))
    (hk : item c.symbol = none → 0 ≤ k)
    (hothers : ∀ d, c.Reaches d → d.size < c.size →
      Runs (Unguarded.many item' fuel) 0 (many item) d) :
    Runs (Unguarded.many item' (fuel + 1)) k (many item) c := by
  generalize hq? : item' c.symbol = q?, hp? : item c.symbol = p? at hturn
  cases hturn with
  | none =>
    refine congr rfl (many_apply fun p hp => ?_) (lookahead ?_)
    · rw [hp?] at hp
      cases hp
    · rw [hq?, hp?]
      exact pure [] (hk hp?)
  | some h =>
    obtain ⟨hfirst, hshorter⟩ := h
    refine congr rfl (many_apply fun p hp => ?_) (lookahead ?_)
    · obtain rfl := Option.some.inj (hp?.symm.trans hp)
      exact hshorter
    · rw [hq?, hp?]
      exact hfirst.andThen (((hothers _ hfirst.reaches hshorter).map _).le (by omega))

/-- By induction on the fuel: each turn leaves fewer tokens. -/
theorem loop (hfuel : c.size < fuel)
    (hitem : ∀ d, c.Reaches d → Turns 0 d (item' d.symbol) (item d.symbol)) :
    Runs (Unguarded.many item' fuel) 0 (many item) c := by
  induction fuel generalizing c with
  | zero => exact absurd hfuel (Nat.not_lt_zero _)
  | succ fuel ih =>
    refine turn (hitem c (.refl c)) (fun _ => Int.le_refl 0) fun d hd hshorter => ?_
    exact ih (by omega) fun e he => hitem e (hd.trans he)

/-- A loop that is entered where it turns spends what the first turn spends. -/
theorem loop_first (hfuel : c.size < fuel) (hsome : item c.symbol ≠ none)
    (hfirst : Turns k c (item' c.symbol) (item c.symbol))
    (hitem : ∀ d, c.Reaches d → Turns 0 d (item' d.symbol) (item d.symbol)) :
    Runs (Unguarded.many item' fuel) k (many item) c := by
  cases fuel with
  | zero => exact absurd hfuel (Nat.not_lt_zero _)
  | succ fuel =>
    refine turn hfirst (fun hnone => absurd hnone hsome) fun d hd hshorter => ?_
    exact loop (by omega) fun e he => hitem e (hd.trans he)

end Runs

/-! Rules with loops. -/

theorem furtherParameter_turns (hc : Complete c.rest) :
    Turns 0 c ((furtherParameter c.symbol).map once) (furtherParameter c.symbol) := by
  generalize hs : c.symbol = s
  cases s with
  | comma =>
    have hitem : Spends (-1) (do
        let comma ← consume
        let parameter ← functionValueParameter
        return [comma, parameter]) c := by
      refine .bind (spends_consume hc (by simp [hs])) fun comma d hd => ?_
      have hrest := hd.complete hc
      exact (spends_functionValueParameter hrest (spends_simpleIdentifier hrest)).map _
    exact (hitem.once.turns_of_neg (by decide)).le (by decide)
  | _ => exact .none

theorem runs_parameterList (hfuel : c.size < fuel) (hc : Complete c.rest) :
    Runs (Unguarded.parameterList fuel) 0 parameterList c := by
  refine .lookahead (.ite (fun h => ?_) fun _ => .pure _ (by decide))
  have first : Spends (-1) functionValueParameter c :=
    spends_functionValueParameter hc (spends_simpleIdentifier_of hc h)
  refine first.once.bind fun first d hd => ?_
  have others : Runs (Unguarded.many (fun s => (furtherParameter s).map once) fuel) 0
      (many furtherParameter) d :=
    .loop (Nat.lt_of_le_of_lt hd.size_le hfuel) fun e he =>
      furtherParameter_turns ((hd.trans he).complete hc)
  exact (others.map _).le (by decide)

theorem runs_functionValueParameters (hfuel : c.size < fuel) (hc : Complete c.rest) :
    Runs (Unguarded.functionValueParameters fuel) 1 functionValueParameters c := by
  refine .enter (.bind (spends_expect hc (by decide)).once fun opening d hd => ?_)
  have parameters := runs_parameterList (Nat.lt_of_le_of_lt hd.size_le hfuel) (hd.complete hc)
  refine .bind parameters fun parameters e he => ?_
  exact (spends_closingParen ((hd.trans he).complete hc)).once.map _

theorem semisItem_turns (hc : Complete c.rest) :
    Turns (-5) c ((semisItem c.symbol).map once) (semisItem c.symbol) := by
  have hitem (h : c.symbol ≠ .endOfInput) : Spends (-5) (do return [← consume]) c :=
    (spends_consume hc h).map _
  generalize hs : c.symbol = s at *
  cases s with
  | newline => exact (hitem (by simp)).once.turns_of_neg (by decide)
  | semicolon => exact (hitem (by simp)).once.turns_of_neg (by decide)
  | _ => exact .none

theorem runs_semis (hfuel : c.size < fuel) (hc : Complete c.rest)
    (h : c.symbol = .newline ∨ c.symbol = .semicolon) :
    Runs (Unguarded.semis fuel) (-4) semis c := by
  have hitem : semisItem c.symbol ≠ none := by rcases h with h | h <;> simp [h, semisItem]
  refine .enter (.map _ (.loop_first hfuel hitem (semisItem_turns hc) fun d hd => ?_))
  exact (semisItem_turns (hd.complete hc)).le (by decide)

/-! Rules with blocks. -/

/-- Wherever fewer than `n` tokens are left, a list of statements runs. -/
def RunsBelow (list : Run ConcreteTree) (nested : Parser ConcreteTree) (n : Nat) : Prop :=
  ∀ d : Cursor, d.size < n → Complete d.rest → Runs list 1 nested d

theorem RunsBelow.mono {list : Run ConcreteTree} {nested : Parser ConcreteTree} {m n : Nat}
    (h : RunsBelow list nested n) (hmn : m ≤ n) : RunsBelow list nested m :=
  fun d hd => h d (Nat.lt_of_lt_of_le hd hmn)

section Nested

variable {list : Run ConcreteTree} {nested : Parser ConcreteTree}
  (hs : RunsBelow list nested c.size) (hc : Complete c.rest)

include hs hc in
theorem runs_block (h : c.symbol = .leftBrace) :
    Runs (Unguarded.block list) (-3) (block nested) c := by
  have opening := spends_expect_of hc h (by decide)
  have hinside := opening.reaches.complete hc
  refine .enter (.andThen opening.once ?_)
  refine .bind (hs _ (opening.shorter (by omega)) hinside) fun body d hd => ?_
  exact (spends_expect (hd.complete hinside) (by decide)).once.map _

include hs hc in
theorem runs_functionBody (h : c.symbol = .leftBrace) :
    Runs (Unguarded.functionBody list) (-2) (functionBody nested) c :=
  .enter ((runs_block hs hc h).map _)

variable (hfuel : c.size < fuel)
include hs hc hfuel

theorem runs_functionDeclaration (hkeyword : Spends k (expect .funKeyword) c) :
    Runs (Unguarded.functionDeclaration fuel list) (k + 3) (functionDeclaration nested) c := by
  refine .enter (.bind hkeyword.once fun keyword d hd => ?_)
  refine .bind (spends_simpleIdentifier (hd.complete hc)).once fun name e he => ?_
  have hname := hd.trans he
  have parameters := runs_functionValueParameters (Nat.lt_of_le_of_lt hname.size_le hfuel)
    (hname.complete hc)
  refine .bind parameters fun parameters e' he' => ?_
  have hrest := hname.trans he'
  refine .lookahead (.ite (fun hbrace => ?_) fun _ => .pure _ (by omega))
  have body := runs_functionBody (hs.mono hrest.size_le) (hrest.complete hc) hbrace
  exact (body.map _).le (by omega)

theorem runs_declaration_from (hkeyword : c.symbol ≠ .valKeyword → Spends k (expect .funKeyword) c)
    (hk : -5 ≤ k) : Runs (Unguarded.declaration fuel list) (k + 4) (declaration nested) c := by
  refine .enter (.lookahead (.ite (fun h => ?_) fun h => ?_))
  · exact ((spends_propertyDeclaration hc h).once.map _).le (by omega)
  · exact ((runs_functionDeclaration hs hc hfuel (hkeyword h)).map _).le (by omega)

theorem runs_declaration : Runs (Unguarded.declaration fuel list) 4 (declaration nested) c :=
  runs_declaration_from hs hc hfuel (fun _ => spends_expect hc (by decide)) (by decide)

theorem runs_declaration_of (h : c.symbol = .funKeyword ∨ c.symbol = .valKeyword) :
    Runs (Unguarded.declaration fuel list) (-1) (declaration nested) c :=
  runs_declaration_from hs hc hfuel
    (fun h' => spends_expect_of hc (h.resolve_right h') (by decide)) (by decide)

theorem runs_statement (h : c.symbol = .funKeyword ∨ c.symbol = .valKeyword ∨
    c.symbol = .identifier ∨ c.symbol = .integer) :
    Runs (Unguarded.statement fuel list) 0 (statement nested) c := by
  refine .enter (.lookahead (.ite (fun h' => ?_) fun h' => ?_))
  · exact (runs_declaration_of hs hc hfuel h').map _
  · have value : Spends (-2) expression c :=
      spends_expression_of hc ((or_assoc.mpr h).resolve_left h')
    exact (value.once.map _).le (by decide)

theorem statementsItem_turns :
    Turns 0 c (Unguarded.statementsItem fuel list c.symbol) (statementsItem nested c.symbol) := by
  have breaks (h : c.symbol = .newline ∨ c.symbol = .semicolon) :
      Turns 0 c (some do return [← Unguarded.semis fuel]) (some do return [← semis]) := by
    have hsemis : Runs (do return [← Unguarded.semis fuel]) (-4) (do return [← semis]) c :=
      (runs_semis hfuel hc h).map _
    exact (hsemis.turns_of_neg (by decide)).le (by decide)
  have single (h : c.symbol = .funKeyword ∨ c.symbol = .valKeyword ∨ c.symbol = .identifier ∨
      c.symbol = .integer) :
      Turns 0 c (some do return [← Unguarded.statement fuel list])
        (some do return [← statement nested]) :=
    (runs_statement hs hc hfuel h).turns_of_enter fun t => [t]
  have other (h : c.symbol ≠ .endOfInput) :
      Turns 0 c (some (once (extraneous "'\x7d'"))) (some (extraneous "'\x7d'")) := by
    have hother := (spends_extraneous "'\x7d'" hc h).once
    exact (hother.turns_of_neg (by decide)).le (by decide)
  generalize hsymbol : c.symbol = symbol at *
  cases symbol with
  | rightBrace => exact .none
  | endOfInput => exact .none
  | newline => exact breaks (by simp)
  | semicolon => exact breaks (by simp)
  | funKeyword => exact single (by simp)
  | valKeyword => exact single (by simp)
  | identifier => exact single (by simp)
  | integer => exact single (by simp)
  | _ => exact other (by simp)

end Nested

/-- By induction on the fuel: lists in blocks have fewer tokens left. -/
theorem runs_statements (hfuel : c.size < fuel) (hc : Complete c.rest) :
    Runs (Unguarded.statements fuel) 1 statements c := by
  induction fuel generalizing c with
  | zero => exact absurd hfuel (Nat.not_lt_zero _)
  | succ fuel ih =>
    let nested : Parser ConcreteTree := fun inner =>
      if _h : inner.size < c.size then statements inner else ⟨node .statements [], inner, []⟩
    have hnested : RunsBelow (Unguarded.statements fuel) nested c.size := by
      intro d hd hrest
      refine .congr rfl ?_ (ih (by omega) hrest)
      simp only [nested, dif_pos hd]
    have items : Runs (Unguarded.many
        (Unguarded.statementsItem (fuel + 1) (Unguarded.statements fuel)) (fuel + 1)) 0
        (many (statementsItem nested)) c :=
      .loop hfuel fun d hd => statementsItem_turns (hnested.mono hd.size_le) (hd.complete hc)
        (Nat.lt_of_le_of_lt hd.size_le hfuel)
    have hbody : Runs (Unguarded.statements (fuel + 1)) 1 (do
        enter .statements
        return node .statements (← many (statementsItem nested))) c := .enter (items.map _)
    refine .congr rfl ?_ hbody
    rw [statements]

theorem runsBelow_statements {n : Nat} (hn : n ≤ fuel) :
    RunsBelow (Unguarded.statements fuel) statements n :=
  fun _ hd => runs_statements (Nat.lt_of_lt_of_le hd hn)

/-! Files. -/

theorem runs_topLevelObject (hfuel : c.size < fuel) (hc : Complete c.rest)
    (h : c.symbol = .funKeyword ∨ c.symbol = .valKeyword) :
    Runs (Unguarded.topLevelObject fuel) 0 topLevelObject c := by
  have object := runs_declaration_of (runsBelow_statements (Nat.le_of_lt hfuel)) hc hfuel h
  refine .enter (.bind object fun object d hd => .lookahead (.ite (fun hbreak => ?_) fun _ => ?_))
  · have breaks := runs_semis (Nat.lt_of_le_of_lt hd.size_le hfuel) (hd.complete hc) hbreak
    exact (breaks.map _).le (by decide)
  · exact .pure _ (by decide)

theorem fileItem_turns (hfuel : c.size < fuel) (hc : Complete c.rest) :
    Turns 0 c (Unguarded.fileItem fuel c.symbol) (fileItem c.symbol) := by
  have object (h : c.symbol = .funKeyword ∨ c.symbol = .valKeyword) :
      Turns 0 c (some do return [← Unguarded.topLevelObject fuel])
        (some do return [← topLevelObject]) :=
    (runs_topLevelObject hfuel hc h).turns_of_enter fun t => [t]
  generalize hsymbol : c.symbol = symbol at *
  cases symbol with
  | endOfInput => exact .none
  | newline =>
    have hbreak : Runs (do return [← once consume]) (-5) (do return [← consume]) c :=
      (spends_consume hc (by simp [hsymbol])).once.map _
    exact (hbreak.turns_of_neg (by decide)).le (by decide)
  | funKeyword => exact object (by simp)
  | valKeyword => exact object (by simp)
  | _ =>
    have hother := (spends_extraneous "\x7b<EOF>, 'fun', 'val'\x7d" hc (by simp [hsymbol])).once
    exact (hother.turns_of_neg (by decide)).le (by decide)

theorem runs_kotlinFile (hfuel : c.size < fuel) (hc : Complete c.rest) :
    Runs (Unguarded.kotlinFile fuel) 1 kotlinFile c := by
  have objects : Runs (Unguarded.many (Unguarded.fileItem fuel) fuel) 0 (many fileItem) c :=
    .loop hfuel fun d hd => fileItem_turns (Nat.lt_of_le_of_lt hd.size_le hfuel) (hd.complete hc)
  refine .enter (.bind objects fun objects d hd => ?_)
  exact (spends_consume_any (hd.complete hc)).once.map _

theorem runs_parseFrom (rule : Nat) (hfuel : c.size < fuel) (hc : Complete c.rest) :
    Runs (Unguarded.parseFrom fuel rule) 4 (parseFrom rule) c := by
  refine .ite (fun _ => ?_) fun _ => .ite (fun _ => ?_) fun _ => .ite (fun _ => ?_) fun _ =>
    .ite (fun _ => ?_) fun _ => ?_
  · exact (runs_kotlinFile hfuel hc).le (by decide)
  · exact runs_declaration (runsBelow_statements (Nat.le_of_lt hfuel)) hc hfuel
  · exact (runs_statements hfuel hc).le (by decide)
  · exact ((spends_expression hc).le (by decide)).once
  · exact .pure _ (by decide)

variable {tokens : List Token}

theorem unguarded_parse (h : Complete tokens) (rule : Nat) (hfuel : tokens.length < fuel) :
    Unguarded.parse fuel tokens rule = some (parse tokens rule) := by
  have hruns := runs_parseFrom rule (c := ⟨tokens, 0⟩) hfuel h
  rw [Unguarded.parse, hruns.returns []]
  rfl

theorem length_visits_le (h : Complete tokens) (rule : Nat) :
    (parse tokens rule).visits.length ≤ 5 * (beforeEnd tokens).length + 4 := by
  have hruns := runs_parseFrom rule (c := ⟨tokens, 0⟩) (Nat.lt_succ_self tokens.length) h
  have hentries : entries (parseFrom rule ⟨tokens, 0⟩).events +
      5 * ((parseFrom rule ⟨tokens, 0⟩).cursor.size : Int) ≤ 5 * tokens.length + 4 :=
    hruns.entries_le
  have hsize : tokens.length ≤
      (parseFrom rule ⟨tokens, 0⟩).cursor.size + (beforeEnd tokens).length :=
    hruns.reaches.size_le_add
  have hvisits : (parse tokens rule).visits.length =
    entries (parseFrom rule ⟨tokens, 0⟩).events := rfl
  omega

open Recognition

/-- Parsing ends on every token list that is empty or holds an end of input, from whatever rule:
fuel for one more turn than there are tokens is enough. It makes at most five decisions for each
token before the first end of input and four more, and it stores at most that many contexts that
were not there. -/
theorem parse_within (h : tokens = [] ∨ ∃ t ∈ tokens, t.isEnd = true) (rule : Nat) (engine : Engine)
    (memo : ContextMemo Visit) :
    (∀ fuel, tokens.length < fuel →
      Unguarded.parse fuel tokens rule = some (parse tokens rule)) ∧
    (engine.record (parse tokens rule).visits).decisions ≤
      engine.decisions + (5 * (beforeEnd tokens).length + 4) ∧
    ((memo.internAll (parse tokens rule).visits).held \ memo.held).card ≤
      5 * (beforeEnd tokens).length + 4 := by
  have hvisits := length_visits_le h rule
  exact ⟨fun fuel => unguarded_parse h rule, Nat.add_le_add_left hvisits _,
    (memo.card_internAll_sdiff_le _).trans hvisits⟩

/-- A declaration of which nothing is there but a comma. -/
def loneComma : List Token := [⟨7, ",", ⟨1, 1⟩⟩, .ending ⟨1, 2⟩]

theorem parse_within_loneComma :
    (∃ t ∈ loneComma, t.isEnd = true) ∧
    (∀ fuel, 2 < fuel → Unguarded.parse fuel loneComma Rule.declaration.index =
      some (parse loneComma Rule.declaration.index)) ∧
    (Engine.fresh.record (parse loneComma Rule.declaration.index).visits).decisions ≤
      0 + (5 * 1 + 4) ∧
    ((ContextMemo.empty.internAll (parse loneComma Rule.declaration.index).visits).held \
      ContextMemo.empty.held).card ≤ 5 * 1 + 4 := by
  have hend : ∃ t ∈ loneComma, t.isEnd = true := by decide
  exact ⟨hend, parse_within (.inr hend) Rule.declaration.index .fresh .empty⟩

/-- Without any token, the four rules of a declaration are entered all the same. -/
example : (parse [] Rule.declaration.index).visits.length = 4 := by decide +kernel

end GoldenTree.Grammar
