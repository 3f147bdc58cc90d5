import GoldenTree.Proofs.Grammar.Conservation
import GoldenTree.Proofs.Grammar.Walk

/-! How many rules a parse enters: every token that is taken pays for five entries. Here are the
rules that hold no loops and no blocks. -/
namespace GoldenTree.Grammar

open GoldenTree.Grammar.Parser

/-- How many rules were entered. -/
def entries (events : List Event) : Nat := (events.filterMap Event.visit?).length

@[simp] theorem entries_nil : entries [] = 0 := rfl

@[simp] theorem entries_append (e f : List Event) : entries (e ++ f) = entries e + entries f := by
  simp [entries]

@[simp] theorem entries_enter (v : Visit) : entries [.enter v] = 1 := rfl

@[simp] theorem entries_report (e : SyntaxError) : entries [.report e] = 0 := rfl

namespace Cursor

/-- From the one place to the other, tokens are taken that do not end the input. -/
def Reaches (c d : Cursor) : Prop := ∃ read, c.rest = read ++ d.rest ∧ ∀ t ∈ read, t.isEnd = false

variable {c d e : Cursor}

theorem Reaches.refl (c : Cursor) : c.Reaches c := ⟨[], rfl, by simp⟩

theorem Reaches.trans (h : c.Reaches d) (h' : d.Reaches e) : c.Reaches e := by
  obtain ⟨read, hread, hinner⟩ := h
  obtain ⟨read', hread', hinner'⟩ := h'
  refine ⟨read ++ read', by rw [hread, hread', List.append_assoc], fun t ht => ?_⟩
  rcases List.mem_append.mp ht with ht | ht
  · exact hinner t ht
  · exact hinner' t ht

theorem Reaches.complete (h : c.Reaches d) (hc : Complete c.rest) : Complete d.rest := by
  obtain ⟨read, hread, hinner⟩ := h
  rw [hread] at hc
  rcases hc with hnil | ⟨t, ht, hend⟩
  · exact .inl (List.append_eq_nil_iff.mp hnil).2
  · rcases List.mem_append.mp ht with ht | ht
    · rw [hinner t ht] at hend
      cases hend
    · exact .inr ⟨t, ht, hend⟩

theorem Reaches.size_le (h : c.Reaches d) : d.size ≤ c.size := by
  obtain ⟨read, hread, -⟩ := h
  rw [size, size, hread, List.length_append]
  exact Nat.le_add_left _ _

/-- No more tokens are taken than there are before the end of input. -/
theorem Reaches.size_le_add (h : c.Reaches d) : c.size ≤ d.size + (beforeEnd c.rest).length := by
  obtain ⟨read, hread, hinner⟩ := h
  rw [size, size, hread, beforeEnd_append hinner, List.length_append, List.length_append]
  omega

end Cursor

variable {α β : Type} {c : Cursor} {p : Parser α} {j k : Int} {s : Symbol}

/-- From this place, the parser takes a token for every five rules it enters and enters at most `k`
more. -/
structure Spends (k : Int) (p : Parser α) (c : Cursor) : Prop where
  reaches : c.Reaches (p c).cursor
  entries_le : entries (p c).events + 5 * (p c).cursor.size ≤ 5 * c.size + k

theorem spends_enter (r : Rule) (c : Cursor) : Spends 1 (enter r) c :=
  ⟨.refl c, by simp only [enter, entries_enter]; omega⟩

theorem spends_lookahead (c : Cursor) : Spends 0 lookahead c := ⟨.refl c, by simp [lookahead]⟩

namespace Spends

theorem le (h : Spends j p c) (hjk : j ≤ k) : Spends k p c :=
  ⟨h.reaches, Int.le_trans h.entries_le (Int.add_le_add_left hjk _)⟩

theorem shorter (h : Spends k p c) (hk : k < entries (p c).events) :
    (p c).cursor.size < c.size := by
  have := h.entries_le
  omega

theorem pure (a : α) (hk : 0 ≤ k) : Spends k (Pure.pure a) c :=
  ⟨.refl c, by simp only [pure_apply, entries_nil]; omega⟩

/-- What the first parser spends is missing for the second. -/
theorem andThen {f : α → Parser β} (h : Spends j p c)
    (h' : Spends (k - j) (f (p c).value) (p c).cursor) : Spends k (p >>= f) c := by
  refine ⟨h.reaches.trans h'.reaches, ?_⟩
  have hfirst := h.entries_le
  have hsecond := h'.entries_le
  simp only [bind_apply, entries_append]
  omega

theorem bind {f : α → Parser β} (h : Spends j p c)
    (h' : ∀ a d, c.Reaches d → Spends (k - j) (f a) d) : Spends k (p >>= f) c :=
  h.andThen (h' _ _ h.reaches)

theorem map (f : α → β) (h : Spends k p c) : Spends k (p >>= fun a => Pure.pure (f a)) c :=
  h.bind fun _ _ _ => pure _ (by omega)

theorem ite {P : Prop} [Decidable P] {p' : Parser α} (h : P → Spends k p c)
    (h' : ¬P → Spends k p' c) : Spends k (if P then p else p') c := by
  split
  · exact h ‹_›
  · exact h' ‹_›

theorem enter {r : Rule} (h : Spends (k - 1) p c) :
    Spends k (Parser.enter r >>= fun _ => p) c := (spends_enter r c).andThen h

theorem report {before after : String} (h : Spends k p c) :
    Spends k (Parser.report before after >>= fun _ => p) c := by
  have hstep : Spends 0 (Parser.report before after) c := ⟨.refl c, by simp [Parser.report]⟩
  exact hstep.andThen (h.le (by omega))

theorem lookahead {f : Symbol → Parser α} (h : Spends k (f c.symbol) c) :
    Spends k (Parser.lookahead >>= f) c := (spends_lookahead c).andThen (h.le (by omega))

end Spends

theorem Complete.ends (hc : Complete c.rest) (h : c.symbol ≠ .endOfInput) : c.Ends := by
  rcases hc with hnil | hends
  · exact absurd (by simp [Cursor.symbol, hnil]) h
  · exact hends

theorem spends_consume (hc : Complete c.rest) (h : c.symbol ≠ .endOfInput) :
    Spends (-5) consume c := by
  have token := consume_parses (hc.ends h) h
  have hsize := token.size_lt (by simpa using consume_tokens_ne_nil)
  refine ⟨⟨_, token.rest, token.inner⟩, ?_⟩
  rw [events_consume, entries_nil]
  omega

/-- An end of input stays where it is. -/
theorem consume_cursor_of_end (h : c.symbol = .endOfInput) : (consume c).cursor = c := by
  unfold consume
  split
  · rfl
  · next t rest hrest =>
    have hend : t.isEnd = true := by
      rw [isEnd_iff_symbol, ← h]
      simp [Cursor.symbol, hrest]
    rw [if_pos hend]

theorem spends_consume_any (hc : Complete c.rest) : Spends 0 consume c := by
  by_cases h : c.symbol = .endOfInput
  · have hcursor := consume_cursor_of_end h
    refine ⟨hcursor.symm ▸ .refl c, ?_⟩
    rw [hcursor, events_consume]
    simp
  · exact (spends_consume hc h).le (by decide)

theorem spends_expect_of (hc : Complete c.rest) (h : c.symbol = s) (hs : s ≠ .endOfInput) :
    Spends (-5) (expect s) c := by
  refine .lookahead ?_
  rw [if_pos h]
  exact (spends_consume hc (h ▸ hs)).map _

theorem spends_expect (hc : Complete c.rest) (hs : s ≠ .endOfInput) :
    Spends 0 (expect s) c := by
  refine .lookahead (.ite (fun h => ?_) fun _ => .report (.pure _ (by decide)))
  exact ((spends_consume hc (h ▸ hs)).map _).le (by decide)

/-! The rules. Where the first token is known to be there, it pays for the rule. -/

theorem spends_simpleIdentifier (hc : Complete c.rest) : Spends 1 simpleIdentifier c :=
  .enter ((spends_expect hc (by decide)).map _)

theorem spends_simpleIdentifier_of (hc : Complete c.rest) (h : c.symbol = .identifier) :
    Spends (-4) simpleIdentifier c :=
  .enter ((spends_expect_of hc h (by decide)).map _)

theorem spends_literalConstant (hc : Complete c.rest) (h : c.symbol = .integer) :
    Spends (-4) literalConstant c :=
  .enter ((spends_consume hc (by simp [h])).map _)

theorem spends_primaryExpression (hc : Complete c.rest)
    (hname : c.symbol ≠ .integer → Spends k simpleIdentifier c) (hk : -4 ≤ k) :
    Spends (k + 1) primaryExpression c := by
  refine .enter (.lookahead (.ite (fun h => ?_) fun h => ?_))
  · exact ((spends_literalConstant hc h).map _).le (by omega)
  · exact ((hname h).map _).le (by omega)

theorem spends_expression_from (hc : Complete c.rest)
    (hname : c.symbol ≠ .integer → Spends k simpleIdentifier c) (hk : -4 ≤ k) :
    Spends (k + 2) expression c :=
  .enter (((spends_primaryExpression hc hname hk).map _).le (by omega))

theorem spends_expression (hc : Complete c.rest) : Spends 3 expression c :=
  spends_expression_from hc (fun _ => spends_simpleIdentifier hc) (by decide)

theorem spends_expression_of (hc : Complete c.rest)
    (h : c.symbol = .identifier ∨ c.symbol = .integer) : Spends (-2) expression c :=
  spends_expression_from hc (fun h' => spends_simpleIdentifier_of hc (h.resolve_right h'))
    (by decide)

theorem spends_propertyDeclaration (hc : Complete c.rest) (h : c.symbol = .valKeyword) :
    Spends (-3) propertyDeclaration c := by
  refine .enter (.bind (spends_expect_of hc h (by decide)) fun keyword d hd => ?_)
  refine .bind (spends_simpleIdentifier (hd.complete hc)) fun name e he => ?_
  have hrest := (hd.trans he).complete hc
  refine .lookahead (.ite (fun hassign => ?_) fun _ => .pure _ (by decide))
  refine .bind (spends_consume hrest (by simp [hassign])) fun sign d hd => ?_
  exact ((spends_expression (hd.complete hrest)).map _).le (by decide)

theorem spends_type (hc : Complete c.rest) : Spends 2 type c :=
  .enter ((spends_simpleIdentifier hc).map _)

theorem spends_functionValueParameter (hc : Complete c.rest)
    (hname : Spends k simpleIdentifier c) : Spends (k + 3) functionValueParameter c := by
  refine .enter (.bind hname fun name d hd => ?_)
  refine .bind (spends_expect (hd.complete hc) (by decide)) fun colon e he => ?_
  exact ((spends_type ((hd.trans he).complete hc)).map _).le (by omega)

theorem spends_closingParen (hc : Complete c.rest) : Spends 0 closingParen c := by
  refine .lookahead (.ite (fun h => ?_) fun _ => .report (.pure _ (by decide)))
  exact ((spends_consume hc (by simp [h])).map _).le (by decide)

theorem spends_extraneous (expected : String) (hc : Complete c.rest)
    (h : c.symbol ≠ .endOfInput) : Spends (-5) (extraneous expected) c :=
  .report ((spends_consume hc h).map _)

end GoldenTree.Grammar
