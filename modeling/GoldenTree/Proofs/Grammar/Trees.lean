import GoldenTree.Proofs.Grammar.Reading

/-! The parser of every rule yields a tree of that rule, whatever the tokens are. The list of
statements is the one recursion: a list in a block begins further on than the list around it. -/
namespace GoldenTree.Grammar

open Body GoldenTree.Grammar.Parser

variable {c : Cursor}

theorem consume_parses (hc : c.Ends) (hs : c.symbol ≠ .endOfInput) :
    Parses (symbol c.symbol) c [(consume c).value] (consume c).cursor (consume c).events := by
  obtain ⟨t, rest, hrest, hsymbol⟩ := hc.head
  have hinner : t.isEnd = false := by
    rw [hsymbol] at hs
    exact Bool.eq_false_iff.mpr (mt isEnd_iff_symbol.mp hs)
  have hmore : rest ≠ [] := by
    rintro rfl
    obtain ⟨u, hu, hend⟩ := hc
    rw [hrest, List.mem_singleton] at hu
    rw [hu, hinner] at hend
    contradiction
  rw [hsymbol]
  refine ⟨?_, ?_, ?_, ?_⟩
  · simp [consume, hrest, hinner, hmore, ConcreteTree.tokens]
  · simp [consume, hrest, hinner, ConcreteTree.tokens]
  · simpa [consume, hrest, hinner] using OfRules.terminal t
  · intro _
    refine ⟨⟨[.symbol t.symbol], ?_, .part _⟩, ?_⟩
    · simp [consume, hrest, hinner, part?]
    · intro u hu
      obtain rfl := List.mem_singleton.mp hu
      simp only [consume, hrest, hinner]
      exact .terminal t

theorem consume_tokens_ne_nil : (consume c).value.tokens ≠ [] := by
  unfold consume
  split
  · simp [ConcreteTree.tokens]
  · split <;> simp [ConcreteTree.tokens]

theorem expect_parses (s : Symbol) (hc : c.Ends) (hs : s ≠ .endOfInput) :
    ParsesBody (symbol s) (expect s) c := by
  by_cases h : c.symbol = s
  · have hp := consume_parses hc (h ▸ hs)
    rw [h] at hp
    simpa [ParsesBody, expect, lookahead, h] using hp
  · simpa [ParsesBody, expect, lookahead, h, report] using (Parses.nil c).of_report

@[simp] theorem many_bind_apply {α β : Type} (item : Symbol → Option (Parser (List α)))
    (f : List α → Parser β) (c : Cursor) :
    ((many item : Parser (List α)) >>= f) c =
      ⟨(f (many item c).value (many item c).cursor).value,
        (f (many item c).value (many item c).cursor).cursor,
        (many item c).events ++ (f (many item c).value (many item c).cursor).events⟩ := rfl

theorem expect_tokens_ne_nil {s : Symbol} (h : c.symbol = s) :
    (expect s c).value.flatMap ConcreteTree.tokens ≠ [] := by
  simpa [expect, lookahead, h] using consume_tokens_ne_nil

/-- Repetition keeps what each of its turns keeps. -/
theorem many_parses {b : Body} {item : Symbol → Option (Parser (List ConcreteTree))}
    (hitem : ∀ d, d.size ≤ c.size → d.Ends → ∀ p, item d.symbol = some p → ParsesBody b p d)
    (hc : c.Ends) : ParsesBody (many b) (many item) c := by
  unfold ParsesBody
  fun_induction Parser.many item c with
  | case1 c h => exact Parses.many_nil c
  | case2 c p h first hlt others ih =>
    have hfirst := hitem c (Nat.le_refl _) hc p h
    have hothers := ih (fun d hd => hitem d (Nat.le_trans hd (Nat.le_of_lt hlt))) (hfirst.ends hc)
    exact hfirst.many_append hothers
  | case3 c p h first hlt =>
    have hfirst := hitem c (Nat.le_refl _) hc p h
    simpa using hfirst.many_append (Parses.many_nil _)

/-- Where the first turn is taken, there is at least one. -/
theorem many_parses_first {b : Body} {item : Symbol → Option (Parser (List ConcreteTree))}
    (hitem : ∀ d, d.size ≤ c.size → d.Ends → ∀ p, item d.symbol = some p → ParsesBody b p d)
    (hc : c.Ends) {p : Parser (List ConcreteTree)} (hp : item c.symbol = some p) :
    ParsesBody (sequence [b, many b]) (many item) c := by
  have first := hitem c (Nat.le_refl _) hc p hp
  have others : ParsesBody (many b) (many item) (p c).cursor :=
    many_parses (fun d hd => hitem d (Nat.le_trans hd first.size_le)) (first.ends hc)
  unfold ParsesBody
  rw [Parser.many]
  simp only [hp]
  split
  · simpa using first.before others.last
  · simpa using first.before (Parses.many_nil _).last

/-- Repetition ends where no turn is left, if each turn moves on. -/
theorem many_stops {item : Symbol → Option (Parser (List ConcreteTree))}
    (hitem : ∀ d : Cursor, d.Ends → ∀ p, item d.symbol = some p →
      (p d).cursor.Ends ∧ (p d).cursor.size < d.size)
    (hc : c.Ends) : item (many item c).cursor.symbol = none := by
  fun_induction Parser.many item c with
  | case1 c h => exact h
  | case2 c p h first hlt others ih => exact ih (hitem c hc p h).1
  | case3 c p h first hlt => exact absurd (hitem c hc p h).2 hlt

theorem simpleIdentifier_parses (hc : c.Ends) :
    ParsesRule .simpleIdentifier simpleIdentifier c := by
  have name := expect_parses .identifier hc (by decide)
  simpa [ParsesRule, simpleIdentifier, enter] using name.node (r := .simpleIdentifier)

theorem literalConstant_parses (hc : c.Ends) (h : c.symbol = .integer) :
    ParsesRule .literalConstant literalConstant c := by
  have literal := consume_parses hc (by simp [h])
  rw [h] at literal
  simpa [ParsesRule, literalConstant, enter] using literal.node (r := .literalConstant)

theorem primaryExpression_parses (hc : c.Ends) :
    ParsesRule .primaryExpression primaryExpression c := by
  by_cases h : c.symbol = .integer
  · have literal := literalConstant_parses hc h
    simpa [ParsesRule, primaryExpression, enter, lookahead, h]
      using literal.right.node (r := .primaryExpression)
  · have name := simpleIdentifier_parses hc
    simpa [ParsesRule, primaryExpression, enter, lookahead, h]
      using name.left.node (r := .primaryExpression)

theorem expression_parses (hc : c.Ends) : ParsesRule .expression expression c := by
  have primary := primaryExpression_parses hc
  simpa [ParsesRule, expression, enter] using primary.node (r := .expression)

theorem propertyDeclaration_parses (hc : c.Ends) :
    ParsesRule .propertyDeclaration propertyDeclaration c := by
  have keyword := expect_parses .valKeyword hc (by decide)
  have name := simpleIdentifier_parses (keyword.ends hc)
  have hname := name.ends (keyword.ends hc)
  by_cases h : (simpleIdentifier (expect .valKeyword c).cursor).cursor.symbol = .assign
  · have sign := consume_parses hname (by simp [h])
    rw [h] at sign
    have value := expression_parses (sign.ends hname)
    have initial := (sign.before value.last).present
    simpa [ParsesRule, propertyDeclaration, enter, lookahead, h]
      using (keyword.before (name.before initial.last)).node (r := .propertyDeclaration)
  · simpa [ParsesRule, propertyDeclaration, enter, lookahead, h]
      using (keyword.before (name.before (Parses.absent _).last)).node (r := .propertyDeclaration)

theorem type_parses (hc : c.Ends) : ParsesRule .type type c := by
  have name := simpleIdentifier_parses hc
  simpa [ParsesRule, type, enter] using name.node (r := .type)

theorem functionValueParameter_parses (hc : c.Ends) :
    ParsesRule .functionValueParameter functionValueParameter c := by
  have name := simpleIdentifier_parses hc
  have colon := expect_parses .colon (name.ends hc) (by decide)
  have kind := type_parses (colon.ends (name.ends hc))
  simpa [ParsesRule, functionValueParameter, enter]
    using (name.before (colon.before kind.last)).node (r := .functionValueParameter)

theorem furtherParameter_parses (hc : c.Ends) {p : Parser (List ConcreteTree)}
    (hp : furtherParameter c.symbol = some p) :
    ParsesBody (sequence [symbol .comma, rule .functionValueParameter]) p c := by
  by_cases h : c.symbol = .comma
  · have comma := consume_parses hc (by simp [h])
    have parameter := functionValueParameter_parses (comma.ends hc)
    rw [h] at comma hp
    obtain rfl := Option.some.inj hp
    simpa [ParsesBody] using comma.before parameter.last
  · simp [furtherParameter] at hp

/-- What may stand between the parentheses. -/
def parameters : Body :=
  optional (sequence [rule .functionValueParameter,
    many (sequence [symbol .comma, rule .functionValueParameter])])

theorem parameterList_parses (hc : c.Ends) : ParsesBody parameters parameterList c := by
  by_cases h : c.symbol = .identifier
  · have first := functionValueParameter_parses hc
    have others : ParsesBody _ (many furtherParameter) (functionValueParameter c).cursor :=
      many_parses (fun _ _ hd _ hp => furtherParameter_parses hd hp) (first.ends hc)
    simpa [ParsesBody, parameters, parameterList, lookahead, h]
      using (first.before others.last).present
  · simpa [ParsesBody, parameters, parameterList, lookahead, h] using Parses.absent c

theorem closingParen_parses (hc : c.Ends) : ParsesBody (symbol .rightParen) closingParen c := by
  by_cases h : c.symbol = .rightParen
  · have closing := consume_parses hc (by simp [h])
    rw [h] at closing
    simpa [ParsesBody, closingParen, lookahead, h] using closing
  · simpa [ParsesBody, closingParen, lookahead, h, report] using (Parses.nil c).of_report

theorem functionValueParameters_parses (hc : c.Ends) :
    ParsesRule .functionValueParameters functionValueParameters c := by
  have opening := expect_parses .leftParen hc (by decide)
  have between := parameterList_parses (opening.ends hc)
  have closing := closingParen_parses (between.ends (opening.ends hc))
  simpa [ParsesRule, functionValueParameters, enter]
    using (opening.before (between.before closing.last)).node (r := .functionValueParameters)

/-- A line break of the grammar. -/
def lineBreak : Body := alt (symbol .semicolon) (symbol .newline)

theorem semisItem_parses (hc : c.Ends) {p : Parser (List ConcreteTree)}
    (hp : semisItem c.symbol = some p) : ParsesBody lineBreak p c := by
  unfold semisItem at hp
  split at hp
  · next h =>
    have newline := consume_parses hc (by simp [h])
    rw [h] at newline
    obtain rfl := Option.some.inj hp
    have hbreak : Parses lineBreak c _ _ _ := newline.right
    simpa [ParsesBody] using hbreak
  · next h =>
    have semicolon := consume_parses hc (by simp [h])
    rw [h] at semicolon
    obtain rfl := Option.some.inj hp
    have hbreak : Parses lineBreak c _ _ _ := semicolon.left
    simpa [ParsesBody] using hbreak
  · cases hp

theorem semisItem_tokens_ne_nil {s : Symbol} {p : Parser (List ConcreteTree)}
    (hp : semisItem s = some p) : (p c).value.flatMap ConcreteTree.tokens ≠ [] := by
  unfold semisItem at hp
  split at hp
  · obtain rfl := Option.some.inj hp
    simpa using consume_tokens_ne_nil
  · obtain rfl := Option.some.inj hp
    simpa using consume_tokens_ne_nil
  · cases hp

/-- The parser takes any number of line breaks and is only called where there is one. -/
theorem semis_parses (hc : c.Ends) (h : c.symbol = .newline ∨ c.symbol = .semicolon) :
    ParsesRule .semis semis c := by
  have hitem : ∃ p, semisItem c.symbol = some p := by
    rcases h with h | h <;> rw [h] <;> exact ⟨_, rfl⟩
  obtain ⟨p, hp⟩ := hitem
  have breaks := many_parses_first (fun _ _ hd _ hq => semisItem_parses hd hq) hc hp
  simpa [ParsesRule, semis, enter] using breaks.node (r := .semis)

theorem extraneous_parses {b : Body} (expected : String) (hc : c.Ends)
    (h : c.symbol ≠ .endOfInput) : ParsesBody b (extraneous expected) c := by
  simpa [ParsesBody, extraneous, report] using (consume_parses hc h).of_report (b := b)

section Nested

variable {statements : Parser ConcreteTree}

/-- The parser yields a list of statements wherever fewer than `n` tokens are left. -/
def ParsesBelow (statements : Parser ConcreteTree) (n : Nat) : Prop :=
  ∀ d : Cursor, d.size < n → d.Ends → ParsesRule .statements statements d

theorem ParsesBelow.mono {m n : Nat} (h : ParsesBelow statements n) (hmn : m ≤ n) :
    ParsesBelow statements m := fun d hd => h d (by omega)

theorem block_parses (hs : ParsesBelow statements c.size) (hc : c.Ends)
    (h : c.symbol = .leftBrace) : ParsesRule .block (block statements) c := by
  have opening := expect_parses .leftBrace hc (by decide)
  have list := hs _ (opening.size_lt (expect_tokens_ne_nil h)) (opening.ends hc)
  have closing := expect_parses .rightBrace (list.ends (opening.ends hc)) (by decide)
  simpa [ParsesRule, block, enter]
    using (opening.before (list.before closing.last)).node (r := .block)

theorem functionBody_parses (hs : ParsesBelow statements c.size) (hc : c.Ends)
    (h : c.symbol = .leftBrace) : ParsesRule .functionBody (functionBody statements) c := by
  have inner := block_parses hs hc h
  simpa [ParsesRule, functionBody, enter] using inner.node (r := .functionBody)

theorem functionDeclaration_parses (hs : ParsesBelow statements c.size) (hc : c.Ends) :
    ParsesRule .functionDeclaration (functionDeclaration statements) c := by
  have keyword := expect_parses .funKeyword hc (by decide)
  have name := simpleIdentifier_parses (keyword.ends hc)
  have hname := name.ends (keyword.ends hc)
  have parameters := functionValueParameters_parses hname
  have hparameters := parameters.ends hname
  have hle := Nat.le_trans parameters.size_le (Nat.le_trans name.size_le keyword.size_le)
  by_cases h : (functionValueParameters
      (simpleIdentifier (expect .funKeyword c).cursor).cursor).cursor.symbol = .leftBrace
  · have body := functionBody_parses (hs.mono hle) hparameters h
    have parts : Parses Rule.functionDeclaration.body c _ _ _ :=
      keyword.before (name.before (parameters.before body.present.last))
    simp only [ParsesRule, functionDeclaration, enter, lookahead, bind_apply, pure_apply, h,
      ↓reduceIte, List.nil_append, List.singleton_append]
    refine Parses.slots ?_
    simpa [List.filterMap_map] using parts
  · have parts : Parses Rule.functionDeclaration.body c _ _ _ :=
      keyword.before (name.before (parameters.before (Parses.absent _).last))
    simp only [ParsesRule, functionDeclaration, enter, lookahead, bind_apply, pure_apply, h,
      ↓reduceIte, List.nil_append, List.singleton_append]
    refine Parses.slots ?_
    simpa [List.filterMap_map] using parts

theorem declaration_parses (hs : ParsesBelow statements c.size) (hc : c.Ends) :
    ParsesRule .declaration (declaration statements) c := by
  by_cases h : c.symbol = .valKeyword
  · have property := propertyDeclaration_parses hc
    simpa [ParsesRule, declaration, enter, lookahead, h]
      using property.right.node (r := .declaration)
  · have function := functionDeclaration_parses hs hc
    simpa [ParsesRule, declaration, enter, lookahead, h]
      using function.left.node (r := .declaration)

theorem statement_parses (hs : ParsesBelow statements c.size) (hc : c.Ends) :
    ParsesRule .statement (statement statements) c := by
  by_cases h : c.symbol = .funKeyword ∨ c.symbol = .valKeyword
  · have inner := declaration_parses hs hc
    simpa [ParsesRule, statement, enter, lookahead, h] using inner.left.node (r := .statement)
  · have inner := expression_parses hc
    simpa [ParsesRule, statement, enter, lookahead, h] using inner.right.node (r := .statement)

theorem statementsItem_parses (hs : ParsesBelow statements c.size) (hc : c.Ends)
    {p : Parser (List ConcreteTree)} (hp : statementsItem statements c.symbol = some p) :
    ParsesBody (alt (rule .statement) (rule .semis)) p c := by
  have hstatement (hq : some (do return [← statement statements]) = some p) :
      ParsesBody (alt (rule .statement) (rule .semis)) p c := by
    obtain rfl := Option.some.inj hq
    have one := (statement_parses hs hc).left (b := rule .semis)
    simpa [ParsesBody] using one
  have hsemis (h : c.symbol = .newline ∨ c.symbol = .semicolon)
      (hq : some (do return [← semis]) = some p) :
      ParsesBody (alt (rule .statement) (rule .semis)) p c := by
    obtain rfl := Option.some.inj hq
    have breaks := (semis_parses hc h).right (a := rule .statement)
    simpa [ParsesBody] using breaks
  unfold statementsItem at hp
  split at hp
  · cases hp
  · cases hp
  · next h => exact hsemis (.inl h) hp
  · next h => exact hsemis (.inr h) hp
  · exact hstatement hp
  · exact hstatement hp
  · exact hstatement hp
  · exact hstatement hp
  · obtain rfl := Option.some.inj hp
    exact extraneous_parses _ hc ‹_›

end Nested

/-- By induction on how many tokens are left. -/
theorem statements_parses (hc : c.Ends) : ParsesRule .statements statements c := by
  induction hn : c.size using Nat.strongRecOn generalizing c with
  | ind n ih =>
    subst hn
    unfold ParsesRule
    rw [statements]
    have hnested : ParsesBelow (fun inner : Cursor =>
        if _h : inner.size < c.size then statements inner
        else ⟨node .statements [], inner, []⟩) c.size := by
      intro d hd hends
      have hd' := ih d.size hd hends rfl
      simpa [ParsesRule, hd] using hd'
    have items := many_parses
      (fun d hd hends p hp => statementsItem_parses (hnested.mono hd) hends hp) hc
    simpa [enter] using items.node (r := .statements)

theorem parsesBelow_statements (n : Nat) : ParsesBelow statements n :=
  fun _ _ hends => statements_parses hends

end GoldenTree.Grammar
