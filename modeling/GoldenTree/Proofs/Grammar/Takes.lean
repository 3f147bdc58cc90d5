import GoldenTree.Proofs.Grammar.Trees
import GoldenTree.Proofs.Grammar.Language

/-! Parsers that take just a given word in front of what follows it and report nothing; so do the
parsers of all rules without blocks on the words of their rules. -/
namespace GoldenTree.Grammar

open Body GoldenTree.Grammar.Parser

/-- The symbols of the tokens at hand. -/
def Cursor.symbols (c : Cursor) : List Symbol := c.rest.map Token.symbol

theorem Cursor.length_symbols (c : Cursor) : c.symbols.length = c.size := List.length_map _

theorem Cursor.symbol_of_head {c : Cursor} {s : Symbol} (h : c.symbols.head? = some s) :
    c.symbol = s := by
  rw [symbols, List.head?_map] at h
  rw [symbol, h]
  rfl

/-- On a word in front of what follows it, nothing is reported and what follows is left. -/
def Takes {α : Type} (p : Parser α) (word follow : List Symbol) : Prop :=
  ∀ c : Cursor, c.symbols = word ++ follow → Clean (p c).events ∧ (p c).cursor.symbols = follow

namespace Takes

variable {α β : Type} {p : Parser α} {f : α → Parser β} {word u v follow : List Symbol}

theorem pure (a : α) : Takes (Pure.pure a : Parser α) [] follow := fun _ hc => ⟨clean_nil, hc⟩

theorem bind (h : Takes p u (v ++ follow)) (h' : ∀ a, Takes (f a) v follow) :
    Takes (p >>= f) (u ++ v) follow := by
  intro c hc
  obtain ⟨hclean, hrest⟩ := h c (by rw [hc, List.append_assoc])
  obtain ⟨hclean', hrest'⟩ := h' (p c).value (p c).cursor hrest
  exact ⟨clean_append.mpr ⟨hclean, hclean'⟩, hrest'⟩

theorem map (h : Takes p word follow) (g : α → β) :
    Takes (p >>= fun a => Pure.pure (g a)) word follow := by
  have hb := Takes.bind (v := []) h fun a => Takes.pure (g a)
  rwa [List.append_nil] at hb

theorem enter {r : Rule} {q : Parser α} (h : Takes q word follow) :
    Takes (Parser.enter r >>= fun _ => q) word follow := by
  intro c hc
  simpa [Parser.enter] using h c hc

/-- The symbol at hand is the first of the word, or the first of what follows an empty word. -/
theorem lookahead {f : Symbol → Parser β} {s : Symbol} (hs : (word ++ follow).head? = some s)
    (h : Takes (f s) word follow) : Takes (Parser.lookahead >>= f) word follow := by
  intro c hc
  have hsymbol : c.symbol = s := Cursor.symbol_of_head (by rw [hc, hs])
  simpa [Parser.lookahead, hsymbol] using h c hc

theorem consume {s : Symbol} (hs : s ≠ .endOfInput) (hf : follow ≠ []) :
    Takes Parser.consume [s] follow := by
  intro c hc
  obtain ⟨t, rest, hrest, rfl, rfl⟩ : ∃ t rest, c.rest = t :: rest ∧ t.symbol = s ∧
      rest.map Token.symbol = follow := by
    simpa [Cursor.symbols, List.map_eq_cons_iff] using hc
  have hinner : t.isEnd = false := Bool.eq_false_iff.mpr (mt isEnd_iff_symbol.mp hs)
  have hmore : rest ≠ [] := by simpa using hf
  simp [Parser.consume, hrest, hinner, hmore, Cursor.symbols]

theorem expect {s : Symbol} (hs : s ≠ .endOfInput) (hf : follow ≠ []) :
    Takes (Parser.expect s) [s] follow := by
  refine lookahead (s := s) rfl ?_
  rw [if_pos rfl]
  exact (consume hs hf).map fun tree => [tree]

variable {item : Symbol → Option (Parser (List α))} {s : Symbol}

theorem many_nil (hs : follow.head? = some s) (hstop : item s = none) :
    Takes (many item) [] follow := by
  intro c hc
  have hsymbol : c.symbol = s := Cursor.symbol_of_head (by rw [hc]; exact hs)
  rw [Parser.many, hsymbol, hstop]
  exact ⟨clean_nil, hc⟩

theorem many_append {q : Parser (List α)} (hs : u.head? = some s) (hitem : item s = some q)
    (h : Takes q u (v ++ follow)) (h' : Takes (many item) v follow) :
    Takes (many item) (u ++ v) follow := by
  intro c hc
  have hsymbol : c.symbol = s := by
    refine Cursor.symbol_of_head ?_
    rw [hc]
    cases u <;> simp_all
  obtain ⟨hclean, hrest⟩ := h c (by rw [hc, List.append_assoc])
  have hlt : (q c).cursor.size < c.size := by
    rw [← Cursor.length_symbols, ← Cursor.length_symbols, hc, hrest]
    have hpos : 0 < u.length := by cases u <;> simp_all
    simp only [List.length_append]
    omega
  obtain ⟨hclean', hrest'⟩ := h' (q c).cursor hrest
  rw [Parser.many, hsymbol, hitem]
  simp only [hlt, ↓reduceDIte]
  exact ⟨clean_append.mpr ⟨hclean, hclean'⟩, hrest'⟩

end Takes

section Flat

variable {word follow : List Symbol}

theorem takes_simpleIdentifier (hw : Rule.simpleIdentifier.body.Matches word)
    (hf : follow ≠ []) : Takes simpleIdentifier word follow := by
  obtain rfl : word = [.identifier] := by simpa [Rule.body] using hw
  exact .enter ((Takes.expect (by decide) hf).map _)

theorem takes_expression (hw : Rule.expression.body.Matches word) (hf : follow ≠ []) :
    Takes expression word follow := by
  have hcases : word = [.identifier] ∨ word = [.integer] := by simpa [Rule.body] using hw
  refine .enter (Takes.map ?_ _)
  refine .enter ?_
  rcases hcases with rfl | rfl
  · refine .lookahead (s := .identifier) rfl ?_
    rw [if_neg (by decide)]
    exact (takes_simpleIdentifier (by simp [Rule.body]) hf).map _
  · refine .lookahead (s := .integer) rfl ?_
    rw [if_pos rfl]
    exact Takes.map (.enter ((Takes.consume (by decide) hf).map _)) _

theorem takes_propertyDeclaration (hw : Rule.propertyDeclaration.body.Matches word)
    (hf : follow ≠ []) (hassign : follow.head? ≠ some .assign) :
    Takes propertyDeclaration word follow := by
  rw [Rule.body] at hw
  simp only [matches_sequence_cons, matches_sequence_nil, matches_symbol_iff, matches_rule_iff,
    matches_optional_iff] at hw
  obtain ⟨_, _, rfl, rfl, name, _, rfl, hname, value, _, rfl, hvalue, rfl⟩ := hw
  refine .enter (.bind (.expect (by decide) (by simp [hf])) fun keyword => ?_)
  refine .bind (takes_simpleIdentifier hname (by simp [hf])) fun tree => ?_
  rw [List.append_nil]
  rcases hvalue with ⟨_, _, rfl, rfl, initial, _, rfl, hinitial, rfl⟩ | rfl
  · refine .lookahead (s := .assign) rfl ?_
    rw [if_pos rfl, List.append_nil]
    exact .bind (.consume (by decide) (by simp [hf])) fun sign =>
      (takes_expression hinitial hf).map _
  · obtain ⟨s, rest, rfl⟩ := List.exists_cons_of_ne_nil hf
    refine .lookahead (s := s) rfl ?_
    rw [if_neg (by simpa using hassign)]
    exact .pure _

theorem takes_type (hw : Rule.type.body.Matches word) (hf : follow ≠ []) :
    Takes type word follow :=
  .enter ((takes_simpleIdentifier (matches_rule_iff.mp hw) hf).map _)

theorem takes_functionValueParameter (hw : Rule.functionValueParameter.body.Matches word)
    (hf : follow ≠ []) : Takes functionValueParameter word follow := by
  rw [Rule.body] at hw
  simp only [matches_sequence_cons, matches_sequence_nil, matches_symbol_iff,
    matches_rule_iff] at hw
  obtain ⟨name, _, rfl, hname, _, _, rfl, rfl, kind, _, rfl, hkind, rfl⟩ := hw
  rw [List.append_nil]
  refine .enter (.bind (takes_simpleIdentifier hname (by simp)) fun tree => ?_)
  exact .bind (.expect (by decide) (by simp [hf])) fun colon => (takes_type hkind hf).map _

theorem takes_furtherParameters
    (hw : Repeats (sequence [symbol .comma, rule .functionValueParameter]).Matches word) :
    Takes (many furtherParameter) word (.rightParen :: follow) := by
  induction hw with
  | none => exact .many_nil rfl rfl
  | @more u v first others ih =>
    simp only [matches_sequence_cons, matches_sequence_nil, matches_symbol_iff,
      matches_rule_iff] at first
    obtain ⟨_, _, rfl, rfl, parameter, _, rfl, hparameter, rfl⟩ := first
    rw [List.append_nil]
    refine .many_append (s := .comma) rfl rfl ?_ ih
    exact .bind (.consume (by decide) (by simp)) fun comma =>
      (takes_functionValueParameter hparameter (by simp)).map _

theorem functionValueParameter_head (hw : Rule.functionValueParameter.body.Matches word) :
    word.head? = some .identifier := by
  rw [Rule.body] at hw
  simp only [matches_sequence_cons, matches_rule_iff] at hw
  obtain ⟨name, _, rfl, hname, -⟩ := hw
  obtain rfl : name = [.identifier] := by simpa [Rule.body] using hname
  rfl

theorem takes_parameterList (hw : parameters.Matches word) :
    Takes parameterList word (.rightParen :: follow) := by
  simp only [parameters, matches_optional_iff, matches_sequence_cons, matches_sequence_nil,
    matches_rule_iff, matches_many_iff] at hw
  rcases hw with ⟨first, _, rfl, hfirst, others, _, rfl, hothers, rfl⟩ | rfl
  · refine .lookahead (s := .identifier) ?_ ?_
    · rw [List.head?_append, List.head?_append, functionValueParameter_head hfirst]
      rfl
    · rw [if_pos rfl, List.append_nil]
      exact .bind (takes_functionValueParameter hfirst (by simp)) fun tree =>
        (takes_furtherParameters hothers).map _
  · refine .lookahead (s := .rightParen) rfl ?_
    rw [if_neg (by decide)]
    exact .pure _

theorem takes_closingParen (hf : follow ≠ []) : Takes closingParen [.rightParen] follow := by
  refine .lookahead (s := .rightParen) rfl ?_
  rw [if_pos rfl]
  exact (Takes.consume (by decide) hf).map _

theorem takes_functionValueParameters (hw : Rule.functionValueParameters.body.Matches word)
    (hf : follow ≠ []) : Takes functionValueParameters word follow := by
  change (sequence [symbol .leftParen, parameters, symbol .rightParen]).Matches word at hw
  simp only [matches_sequence_cons, matches_sequence_nil, matches_symbol_iff] at hw
  obtain ⟨_, _, rfl, rfl, between, _, rfl, hbetween, _, _, rfl, rfl, rfl⟩ := hw
  refine .enter (.bind (.expect (by decide) (by simp)) fun opening => ?_)
  exact .bind (takes_parameterList hbetween) fun trees => (takes_closingParen hf).map _

/-- Whether a symbol breaks lines. -/
def isBreak (s : Symbol) : Bool := s = .semicolon ∨ s = .newline

theorem semisItem_of_isBreak {s : Symbol} (h : isBreak s = true) :
    semisItem s = some (do return [← consume]) := by
  have hs : s = .semicolon ∨ s = .newline := by simpa [isBreak] using h
  rcases hs with rfl | rfl <;> rfl

theorem semisItem_of_not_isBreak {s : Symbol} (h : isBreak s = false) : semisItem s = none := by
  cases s <;> first | rfl | exact absurd h (by decide)

theorem matches_lineBreak_iff : lineBreak.Matches word ↔ ∃ s, word = [s] ∧ isBreak s = true := by
  simp only [lineBreak, matches_alt_iff, matches_symbol_iff, isBreak, decide_eq_true_eq]
  constructor
  · rintro (h | h)
    · exact ⟨_, h, .inl rfl⟩
    · exact ⟨_, h, .inr rfl⟩
  · rintro ⟨s, h, rfl | rfl⟩
    · exact .inl h
    · exact .inr h

/-- Line breaks, one at least. -/
theorem matches_semis (hw : Rule.semis.body.Matches word) :
    word ≠ [] ∧ ∀ s ∈ word, isBreak s = true := by
  change (sequence [lineBreak, many lineBreak]).Matches word at hw
  simp only [matches_sequence_cons, matches_sequence_nil, matches_many_iff,
    matches_lineBreak_iff] at hw
  obtain ⟨_, _, rfl, ⟨s, rfl, hs⟩, others, _, rfl, hothers, rfl⟩ := hw
  have hall : ∀ s ∈ others, isBreak s = true := by
    induction hothers with
    | none => simp
    | more first _ ih =>
      obtain ⟨t, rfl, ht⟩ := matches_lineBreak_iff.mp first
      simpa [ht] using ih
  exact ⟨by simp, by simpa [hs] using hall⟩

theorem takes_semis (hw : ∀ s ∈ word, isBreak s = true) {s : Symbol} (hs : follow.head? = some s)
    (hbreak : isBreak s = false) : Takes semis word follow := by
  have hf : follow ≠ [] := by
    rintro rfl
    cases hs
  have hmany : Takes (many semisItem) word follow := by
    induction word with
    | nil => exact .many_nil hs (semisItem_of_not_isBreak hbreak)
    | cons t word ih =>
      have ht := hw t (List.mem_cons_self ..)
      have hstep : Takes (do return [← consume]) [t] (word ++ follow) := by
        refine (Takes.consume ?_ (by simp [hf])).map _
        rintro rfl
        cases ht
      exact .many_append (u := [t]) rfl (semisItem_of_isBreak ht) hstep
        (ih fun u hu => hw u (List.mem_cons_of_mem _ hu))
  exact .enter (hmany.map _)

end Flat

end GoldenTree.Grammar
