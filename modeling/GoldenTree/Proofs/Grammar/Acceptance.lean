import GoldenTree.Proofs.Grammar.File
import GoldenTree.Proofs.Grammar.Takes

/-! The parser accepts exactly the words of the grammar. In front of anything that may follow a word
of a rule, the parser of the rule takes just that word and reports nothing. -/
namespace GoldenTree.Grammar

open Body GoldenTree.Grammar.Parser

section Nested

variable {word follow : List Symbol} {nested : Parser ConcreteTree}

/-- What may follow a list of statements. -/
def ClosesList (follow : List Symbol) : Prop :=
  follow.head? = some .rightBrace ∨ follow.head? = some .endOfInput

/-- The parser takes the lists of statements that leave fewer than `n` symbols in all. -/
def TakesBelow (nested : Parser ConcreteTree) (n : Nat) : Prop :=
  ∀ word follow : List Symbol, (word ++ follow).length < n →
    Rule.statements.body.Matches word → ClosesList follow → Takes nested word follow

theorem TakesBelow.mono {m n : Nat} (h : TakesBelow nested n) (hmn : m ≤ n) :
    TakesBelow nested m := fun word follow hlt => h word follow (by omega)

theorem takes_functionBody (hs : TakesBelow nested (word ++ follow).length)
    (hw : Rule.functionBody.body.Matches word) (hf : follow ≠ []) :
    Takes (functionBody nested) word follow := by
  have hblock : Rule.block.body.Matches word := matches_rule_iff.mp hw
  rw [Rule.body] at hblock
  simp only [matches_sequence_cons, matches_sequence_nil, matches_symbol_iff,
    matches_rule_iff] at hblock
  obtain ⟨_, _, rfl, rfl, list, _, rfl, hlist, _, _, rfl, rfl, rfl⟩ := hblock
  rw [List.append_nil] at hs ⊢
  refine .enter (Takes.map (.enter ?_) _)
  refine .bind (.expect (by decide) (by simp)) fun opening => ?_
  have hlt : (list ++ [Symbol.rightBrace] ++ follow).length <
      ([Symbol.leftBrace] ++ (list ++ [Symbol.rightBrace]) ++ follow).length := by simp
  rw [List.append_assoc list] at hlt
  exact .bind (hs _ _ hlt hlist (.inl rfl)) fun body => (Takes.expect (by decide) hf).map _

theorem functionBody_head (hw : Rule.functionBody.body.Matches word) :
    word.head? = some .leftBrace := by
  have hblock : Rule.block.body.Matches word := matches_rule_iff.mp hw
  rw [Rule.body] at hblock
  simp only [matches_sequence_cons, matches_symbol_iff] at hblock
  obtain ⟨_, _, rfl, rfl, -⟩ := hblock
  rfl

theorem takes_functionDeclaration (hs : TakesBelow nested (word ++ follow).length)
    (hw : Rule.functionDeclaration.body.Matches word) (hf : follow ≠ [])
    (hbrace : follow.head? ≠ some .leftBrace) :
    Takes (functionDeclaration nested) word follow := by
  rw [Rule.body] at hw
  simp only [matches_sequence_cons, matches_sequence_nil, matches_symbol_iff, matches_rule_iff,
    matches_optional_iff] at hw
  obtain ⟨_, _, rfl, rfl, name, _, rfl, hname, list, _, rfl, hlist, body, _, rfl, hbody, rfl⟩ := hw
  rw [List.append_nil] at hs ⊢
  refine .enter (.bind (.expect (by decide) (by simp [hf])) fun keyword => ?_)
  refine .bind (takes_simpleIdentifier hname (by simp [hf])) fun tree => ?_
  refine .bind (takes_functionValueParameters hlist (by simp [hf])) fun parameters => ?_
  rcases hbody with hbody | rfl
  · refine .lookahead (s := .leftBrace) ?_ ?_
    · rw [List.head?_append, functionBody_head hbody]
      rfl
    · rw [if_pos rfl]
      refine (takes_functionBody (hs.mono ?_) hbody hf).map _
      simp
      omega
  · obtain ⟨s, rest, rfl⟩ := List.exists_cons_of_ne_nil hf
    refine .lookahead (s := s) rfl ?_
    rw [if_neg (by simpa using hbrace)]
    exact .pure _

theorem propertyDeclaration_head (hw : Rule.propertyDeclaration.body.Matches word) :
    word.head? = some .valKeyword := by
  rw [Rule.body] at hw
  simp only [matches_sequence_cons, matches_symbol_iff] at hw
  obtain ⟨_, _, rfl, rfl, -⟩ := hw
  rfl

theorem functionDeclaration_head (hw : Rule.functionDeclaration.body.Matches word) :
    word.head? = some .funKeyword := by
  rw [Rule.body] at hw
  simp only [matches_sequence_cons, matches_symbol_iff] at hw
  obtain ⟨_, _, rfl, rfl, -⟩ := hw
  rfl

theorem declaration_head (hw : Rule.declaration.body.Matches word) :
    word.head? = some .funKeyword ∨ word.head? = some .valKeyword := by
  rw [Rule.body] at hw
  simp only [matches_alt_iff, matches_rule_iff] at hw
  exact hw.imp functionDeclaration_head propertyDeclaration_head

/-- No optional part that a declaration may end in can begin with what follows it. -/
def EndsDeclaration (follow : List Symbol) : Prop :=
  follow ≠ [] ∧ follow.head? ≠ some .assign ∧ follow.head? ≠ some .leftBrace

theorem endsDeclaration_of_head {s : Symbol} (h : follow.head? = some s) (ha : s ≠ .assign)
    (hb : s ≠ .leftBrace) : EndsDeclaration follow := by
  refine ⟨?_, ?_, ?_⟩
  · rintro rfl
    cases h
  · rw [h]
    exact fun he => ha (Option.some.inj he)
  · rw [h]
    exact fun he => hb (Option.some.inj he)

theorem takes_declaration (hs : TakesBelow nested (word ++ follow).length)
    (hw : Rule.declaration.body.Matches word) (hf : EndsDeclaration follow) :
    Takes (declaration nested) word follow := by
  obtain ⟨hne, hassign, hbrace⟩ := hf
  rw [Rule.body] at hw
  simp only [matches_alt_iff, matches_rule_iff] at hw
  rcases hw with hw | hw
  · refine .enter (.lookahead (s := .funKeyword) ?_ ?_)
    · rw [List.head?_append, functionDeclaration_head hw]
      rfl
    · rw [if_neg (by decide)]
      exact (takes_functionDeclaration hs hw hne hbrace).map _
  · refine .enter (.lookahead (s := .valKeyword) ?_ ?_)
    · rw [List.head?_append, propertyDeclaration_head hw]
      rfl
    · rw [if_pos rfl]
      exact (takes_propertyDeclaration hw hne hassign).map _

/-- The symbols that a statement begins with. -/
def startsStatement (s : Symbol) : Bool :=
  s = .funKeyword ∨ s = .valKeyword ∨ s = .identifier ∨ s = .integer

theorem statement_head (hw : Rule.statement.body.Matches word) :
    ∃ s, word.head? = some s ∧ startsStatement s = true := by
  rw [Rule.body] at hw
  simp only [matches_alt_iff, matches_rule_iff] at hw
  rcases hw with hw | hw
  · rcases declaration_head hw with h | h
    · exact ⟨_, h, rfl⟩
    · exact ⟨_, h, rfl⟩
  · have hcases : word = [.identifier] ∨ word = [.integer] := by simpa [Rule.body] using hw
    rcases hcases with rfl | rfl
    · exact ⟨_, rfl, rfl⟩
    · exact ⟨_, rfl, rfl⟩

theorem takes_statement (hs : TakesBelow nested (word ++ follow).length)
    (hw : Rule.statement.body.Matches word) (hf : EndsDeclaration follow) :
    Takes (statement nested) word follow := by
  rw [Rule.body] at hw
  simp only [matches_alt_iff, matches_rule_iff] at hw
  rcases hw with hw | hw
  · obtain ⟨s, hhead, hsymbol⟩ :
        ∃ s, word.head? = some s ∧ (s = .funKeyword ∨ s = .valKeyword) := by
      rcases declaration_head hw with h | h
      · exact ⟨_, h, .inl rfl⟩
      · exact ⟨_, h, .inr rfl⟩
    refine .enter (.lookahead (s := s) (by simp [hhead]) ?_)
    rw [if_pos hsymbol]
    exact (takes_declaration hs hw hf).map _
  · have hcases : word = [.identifier] ∨ word = [.integer] := by simpa [Rule.body] using hw
    obtain ⟨s, hhead, hsymbol⟩ :
        ∃ s, word.head? = some s ∧ ¬(s = .funKeyword ∨ s = .valKeyword) := by
      rcases hcases with rfl | rfl
      · exact ⟨_, rfl, by decide⟩
      · exact ⟨_, rfl, by decide⟩
    refine .enter (.lookahead (s := s) (by simp [hhead]) ?_)
    rw [if_neg hsymbol]
    exact (takes_expression hw hf.1).map _

/-- The words of the items of a list of statements. -/
def statementsWord : List Symbol → Prop := (alt (rule .statement) (rule .semis)).Matches

theorem statementsWord_iff : statementsWord word ↔
    Rule.statement.body.Matches word ∨ Rule.semis.body.Matches word := by
  simp only [statementsWord, matches_alt_iff, matches_rule_iff]

/-- Line breaks can be cut off from the front of a list of statements. -/
theorem repeats_dropWhile_isBreak (hw : Repeats statementsWord word) :
    Repeats statementsWord (word.dropWhile isBreak) := by
  induction hw with
  | none => exact .none
  | @more u v first others ih =>
    rcases statementsWord_iff.mp first with hstatement | hsemis
    · obtain ⟨s, hs, hstart⟩ := statement_head hstatement
      have hkeep : (u ++ v).dropWhile isBreak = u ++ v := by
        have hbreak : isBreak s = false := by cases s <;> simp_all [startsStatement, isBreak]
        cases u with
        | nil => cases hs
        | cons t u =>
          obtain rfl := Option.some.inj hs
          simp [hbreak]
      rw [hkeep]
      exact .more first others
    · obtain ⟨-, hall⟩ := matches_semis hsemis
      rw [List.dropWhile_append_of_pos hall]
      exact ih

theorem repeats_head (hw : Repeats statementsWord word) :
    word = [] ∨ ∃ s, word.head? = some s ∧ (startsStatement s = true ∨ isBreak s = true) := by
  induction hw with
  | none => exact .inl rfl
  | @more u v first others ih =>
    right
    rcases statementsWord_iff.mp first with hstatement | hsemis
    · obtain ⟨s, hs, hstart⟩ := statement_head hstatement
      exact ⟨s, by simp [hs], .inl hstart⟩
    · obtain ⟨hne, hall⟩ := matches_semis hsemis
      obtain ⟨s, rest, rfl⟩ := List.exists_cons_of_ne_nil hne
      exact ⟨s, rfl, .inr (hall s (List.mem_cons_self ..))⟩

theorem ClosesList.endsDeclaration (h : ClosesList follow) : EndsDeclaration follow := by
  rcases h with h | h
  · exact endsDeclaration_of_head h (by decide) (by decide)
  · exact endsDeclaration_of_head h (by decide) (by decide)

theorem endsDeclaration_append (hw : Repeats statementsWord word) (hf : ClosesList follow) :
    EndsDeclaration (word ++ follow) := by
  rcases repeats_head hw with rfl | ⟨s, hs, hstart⟩
  · exact hf.endsDeclaration
  · refine endsDeclaration_of_head (s := s) (by simp [hs]) ?_ ?_
    · rintro rfl
      revert hstart
      decide
    · rintro rfl
      revert hstart
      decide

theorem statementsItem_of_startsStatement {s : Symbol} (h : startsStatement s = true) :
    statementsItem nested s = some (do return [← statement nested]) := by
  have hs : s = .funKeyword ∨ s = .valKeyword ∨ s = .identifier ∨ s = .integer := by
    simpa [startsStatement] using h
  rcases hs with rfl | rfl | rfl | rfl <;> rfl

theorem statementsItem_of_isBreak {s : Symbol} (h : isBreak s = true) :
    statementsItem nested s = some (do return [← semis]) := by
  have hs : s = .semicolon ∨ s = .newline := by simpa [isBreak] using h
  rcases hs with rfl | rfl <;> rfl

theorem head_dropWhile_isBreak (word : List Symbol) (hf : ClosesList follow) :
    ∃ s, (word.dropWhile isBreak ++ follow).head? = some s ∧ isBreak s = false := by
  cases h : word.dropWhile isBreak with
  | nil =>
    rcases hf with hf | hf
    · exact ⟨_, hf, rfl⟩
    · exact ⟨_, hf, rfl⟩
  | cons s rest =>
    have hnot := List.head_dropWhile_not isBreak (l := word) (by simp [h])
    simp only [h, List.head_cons] at hnot
    exact ⟨s, rfl, hnot⟩

/-- A list that does not begin with a line break begins with a statement. -/
theorem repeats_statement {s : Symbol} {rest : List Symbol}
    (hw : Repeats statementsWord (s :: rest)) (hbreak : isBreak s = false) :
    ∃ u v, s :: rest = u ++ v ∧ Rule.statement.body.Matches u ∧ Repeats statementsWord v := by
  generalize hword : s :: rest = word at hw
  cases hw with
  | none => cases hword
  | @more u v first others =>
    rcases statementsWord_iff.mp first with hstatement | hsemis
    · exact ⟨u, v, rfl, hstatement, others⟩
    · obtain ⟨hne, hall⟩ := matches_semis hsemis
      obtain ⟨t, rest', rfl⟩ := List.exists_cons_of_ne_nil hne
      obtain rfl := (List.cons.inj hword).1
      rw [hall s (List.mem_cons_self ..)] at hbreak
      cases hbreak

/-- The parser takes as many line breaks as it can in one turn, where the derivation may have
taken them in several. -/
theorem takes_statementsItems {n : Nat} (hs : TakesBelow nested n) (hf : ClosesList follow)
    (hn : (word ++ follow).length ≤ n) (hw : Repeats statementsWord word) :
    Takes (many (statementsItem nested)) word follow := by
  induction hl : word.length using Nat.strongRecOn generalizing word with
  | ind l ih =>
    subst hl
    cases word with
    | nil =>
      rcases hf with hf | hf
      · exact .many_nil hf rfl
      · exact .many_nil hf rfl
    | cons s rest =>
      by_cases hbreak : isBreak s = true
      · have hrest := repeats_dropWhile_isBreak hw
        have hlt : ((s :: rest).dropWhile isBreak).length < (s :: rest).length := by
          have := (List.dropWhile_sublist isBreak (l := rest)).length_le
          simp only [List.dropWhile_cons_of_pos hbreak, List.length_cons]
          omega
        have hitems := ih _ hlt (by simp only [List.length_append] at hn ⊢; omega) hrest rfl
        have hsemis : Takes semis ((s :: rest).takeWhile isBreak)
            ((s :: rest).dropWhile isBreak ++ follow) := by
          obtain ⟨t, ht, hnot⟩ := head_dropWhile_isBreak (s :: rest) hf
          exact takes_semis (List.all_eq_true.mp List.all_takeWhile) ht hnot
        have hfirst : ((s :: rest).takeWhile isBreak).head? = some s := by simp [hbreak]
        have hall := Takes.many_append hfirst (statementsItem_of_isBreak hbreak)
          (hsemis.map fun tree => [tree]) hitems
        rwa [List.takeWhile_append_dropWhile] at hall
      · obtain ⟨u, v, huv, hstatement, hothers⟩ := repeats_statement hw (by simpa using hbreak)
        obtain ⟨t, ht, hstart⟩ := statement_head hstatement
        have hpos : 0 < u.length := by cases u <;> simp_all
        rw [huv] at hn ⊢
        have hlt : v.length < (s :: rest).length := by simp [huv, hpos]
        have hitems := ih _ hlt (by simp only [List.length_append] at hn ⊢; omega) hothers rfl
        have hlength : (u ++ (v ++ follow)).length ≤ n := by rwa [← List.append_assoc]
        have hfirst := takes_statement (hs.mono hlength) hstatement
          (endsDeclaration_append hothers hf)
        exact .many_append ht (statementsItem_of_startsStatement hstart)
          (hfirst.map fun tree => [tree]) hitems

end Nested

section File

variable {word follow : List Symbol}

/-- By induction on how many symbols are left. -/
theorem takes_statements (hw : Rule.statements.body.Matches word) (hf : ClosesList follow) :
    Takes statements word follow := by
  induction hn : (word ++ follow).length using Nat.strongRecOn generalizing word follow with
  | ind n ih =>
    subst hn
    intro c hc
    have hsize : c.size = (word ++ follow).length := by rw [← c.length_symbols, hc]
    have hnested : TakesBelow (fun inner : Cursor =>
        if _h : inner.size < c.size then statements inner
        else ⟨node .statements [], inner, []⟩) (word ++ follow).length := by
      intro u v hlt hu hv d hd
      have hd' : d.size < c.size := by rw [hsize, ← d.length_symbols, hd]; exact hlt
      simpa [hd'] using ih _ hlt hu hv rfl d hd
    have hitems := takes_statementsItems hnested hf (Nat.le_refl _) (matches_many_iff.mp hw)
    rw [statements]
    exact (hitems.map (node .statements)).enter c hc

theorem takesBelow_statements (n : Nat) : TakesBelow statements n :=
  fun _ _ _ hw hf => takes_statements hw hf

/-- What may follow an object of a file. -/
def ClosesObject (follow : List Symbol) : Prop :=
  follow.head? = some .funKeyword ∨ follow.head? = some .valKeyword ∨
    follow.head? = some .endOfInput

theorem topLevelObject_head (hw : Rule.topLevelObject.body.Matches word) :
    word.head? = some .funKeyword ∨ word.head? = some .valKeyword := by
  rw [Rule.body] at hw
  simp only [matches_sequence_cons, matches_rule_iff] at hw
  obtain ⟨object, _, rfl, hobject, -⟩ := hw
  rcases declaration_head hobject with h | h
  · exact .inl (by simp [h])
  · exact .inr (by simp [h])

theorem ClosesObject.head (h : ClosesObject follow) : ∃ s, follow.head? = some s ∧
    isBreak s = false ∧ s ≠ .assign ∧ s ≠ .leftBrace := by
  rcases h with h | h | h <;> exact ⟨_, h, by decide, by decide, by decide⟩

theorem takes_topLevelObject (hw : Rule.topLevelObject.body.Matches word)
    (hf : ClosesObject follow) : Takes topLevelObject word follow := by
  obtain ⟨s, hs, hbreak, hassign, hbrace⟩ := hf.head
  rw [Rule.body] at hw
  simp only [matches_sequence_cons, matches_sequence_nil, matches_rule_iff,
    matches_optional_iff] at hw
  obtain ⟨object, _, rfl, hobject, breaks, _, rfl, hbreaks, rfl⟩ := hw
  rw [List.append_nil]
  rcases hbreaks with hbreaks | rfl
  · obtain ⟨hne, hall⟩ := matches_semis hbreaks
    obtain ⟨t, rest, rfl⟩ := List.exists_cons_of_ne_nil hne
    have ht : t = .semicolon ∨ t = .newline := by
      simpa [isBreak] using hall t (List.mem_cons_self ..)
    have hends : EndsDeclaration (t :: rest ++ follow) := by
      rcases ht with rfl | rfl
      · exact endsDeclaration_of_head rfl (by decide) (by decide)
      · exact endsDeclaration_of_head rfl (by decide) (by decide)
    refine .enter (.bind (takes_declaration (takesBelow_statements _) hobject hends) fun tree => ?_)
    refine .lookahead (s := t) rfl ?_
    rw [if_pos ht.symm]
    exact (takes_semis hall hs hbreak).map _
  · have hends := endsDeclaration_of_head hs hassign hbrace
    refine .enter (.bind (takes_declaration (takesBelow_statements _) hobject hends) fun tree => ?_)
    refine .lookahead (s := s) hs ?_
    rw [if_neg]
    · exact .pure _
    · rintro (rfl | rfl) <;> cases hbreak

theorem takes_objects (hw : Repeats (rule .topLevelObject).Matches word) :
    Takes (many fileItem) word [.endOfInput] ∧ ClosesObject (word ++ [.endOfInput]) := by
  induction hw with
  | none => exact ⟨.many_nil rfl rfl, .inr (.inr rfl)⟩
  | @more u v first others ih =>
    have hobject := matches_rule_iff.mp first
    obtain ⟨s, hs, hstart⟩ : ∃ s, u.head? = some s ∧ (s = .funKeyword ∨ s = .valKeyword) := by
      rcases topLevelObject_head hobject with h | h
      · exact ⟨_, h, .inl rfl⟩
      · exact ⟨_, h, .inr rfl⟩
    have hitem : fileItem s = some (do return [← topLevelObject]) := by
      rcases hstart with rfl | rfl <;> rfl
    refine ⟨.many_append hs hitem ((takes_topLevelObject hobject ih.2).map _) ih.1, ?_⟩
    rcases hstart with rfl | rfl
    · exact .inl (by simp [hs])
    · exact .inr (.inl (by simp [hs]))

theorem takes_file (hw : Repeats (symbol .newline).Matches word)
    (hf : Repeats (rule .topLevelObject).Matches follow) :
    Takes (many fileItem) (word ++ follow) [.endOfInput] := by
  induction hw with
  | none => exact (takes_objects hf).1
  | more first others ih =>
    obtain rfl := matches_symbol_iff.mp first
    rw [List.append_assoc]
    exact .many_append (s := .newline) rfl rfl ((Takes.consume (by decide) (by simp)).map _) ih

/-- Nothing is reported about a word of the grammar. -/
theorem kotlinFile_clean {c : Cursor} (hw : Rule.kotlinFile.body.Matches c.symbols) :
    Clean (kotlinFile c).events := by
  rw [Rule.body] at hw
  simp only [matches_sequence_cons, matches_sequence_nil, matches_symbol_iff,
    matches_many_iff] at hw
  obtain ⟨newlines, _, hc, hnewlines, objects, _, rfl, hobjects, _, _, rfl, rfl, rfl⟩ := hw
  obtain ⟨hclean, hrest⟩ := takes_file hnewlines hobjects c (by simpa using hc)
  have hending : Clean (consume (many fileItem c).cursor).events := by
    unfold consume
    split
    · exact clean_nil
    · split <;> exact clean_nil
  simp only [kotlinFile, enter, bind_apply, many_bind_apply, List.singleton_append, clean_enter,
    clean_append]
  exact ⟨hclean, hending, clean_nil⟩

/-- A file is read to its end of input: no token is left, lost or added. -/
theorem kotlinFile_tokens_eq {c : Cursor} {tokens : List Token} {last : Token}
    (hc : c.rest = tokens ++ [last]) (hinner : ∀ t ∈ tokens, t.isEnd = false)
    (hlast : last.isEnd = true) : (kotlinFile c).value.tokens = tokens ++ [last] := by
  have hends : c.Ends := ⟨last, by simp [hc], hlast⟩
  obtain ⟨read, stop, rest, htokens, hrest, hread, hstop⟩ := kotlinFile_tokens hends
  have hfirst : ∀ (front : List Token) (t : Token) (back : List Token),
      (∀ u ∈ front, u.isEnd = false) → t.isEnd = true →
      (front ++ t :: back).takeWhile (fun u => !u.isEnd) = front := by
    intro front t back hfront ht
    rw [List.takeWhile_append_of_pos (by simpa using hfront)]
    simp [ht]
  have hfront : tokens = read := by
    rw [← hfirst tokens last [] hinner hlast, ← hfirst read stop rest hread hstop, ← hrest, hc]
  subst hfront
  rw [hc, List.append_cancel_left_eq] at hrest
  rw [htokens, (List.cons.inj hrest).1]

theorem parse_kotlinFile (tokens : List Token) :
    (parse tokens Rule.kotlinFile.index).tree = (kotlinFile ⟨tokens, 0⟩).value ∧
      ((parse tokens Rule.kotlinFile.index).errors = [] ↔
        Clean (kotlinFile ⟨tokens, 0⟩).events) := by
  simp [parse, parseFrom, Clean]

/-- A token list is parsed without an error exactly if the grammar derives it, and then its tree is
a derivation of it. -/
theorem parse_accepts_words (tokens : List Token) (last : Token)
    (hinner : ∀ t ∈ tokens, t.isEnd = false) (hlast : last.isEnd = true) :
    ((parse (tokens ++ [last]) Rule.kotlinFile.index).errors = [] ↔
      Derives [.rule .kotlinFile] (tokens.map Token.symbol ++ [.endOfInput])) ∧
    ((parse (tokens ++ [last]) Rule.kotlinFile.index).errors = [] →
      IsDerivation (parse (tokens ++ [last]) Rule.kotlinFile.index).tree ∧
      part? (parse (tokens ++ [last]) Rule.kotlinFile.index).tree = some (.rule .kotlinFile) ∧
      (parse (tokens ++ [last]) Rule.kotlinFile.index).tree.tokens = tokens ++ [last]) := by
  obtain ⟨htree, herrors⟩ := parse_kotlinFile (tokens ++ [last])
  have hends : (⟨tokens ++ [last], 0⟩ : Cursor).Ends := ⟨last, by simp, hlast⟩
  have hword : (tokens ++ [last]).map Token.symbol = tokens.map Token.symbol ++ [.endOfInput] := by
    rw [List.map_append, List.map_singleton, isEnd_iff_symbol.mp hlast]
  have htokens := kotlinFile_tokens_eq (c := ⟨tokens ++ [last], 0⟩) rfl hinner hlast
  have hsound (hclean : Clean (kotlinFile ⟨tokens ++ [last], 0⟩).events) :
      IsDerivation (kotlinFile ⟨tokens ++ [last], 0⟩).value ∧
        part? (kotlinFile ⟨tokens ++ [last], 0⟩).value = some (.rule .kotlinFile) := by
    obtain ⟨⟨row, parts, production⟩, nested⟩ := kotlinFile_fits hends hclean
    obtain rfl := produces_part_iff.mp production
    exact ⟨nested _ (List.mem_singleton_self _), by simpa using parts⟩
  rw [herrors, htree]
  refine ⟨⟨?_, ?_⟩, fun hclean => ⟨(hsound hclean).1, (hsound hclean).2, htokens⟩⟩
  · intro hclean
    have hderives := (hsound hclean).1.derives (hsound hclean).2
    rwa [htokens, hword] at hderives
  · intro hderives
    refine kotlinFile_clean ?_
    rw [← derives_rule_iff]
    simpa [Cursor.symbols, isEnd_iff_symbol.mp hlast] using hderives

/-- A function whose block holds two line breaks and a name. -/
def blockTokens : List Token :=
  [⟨1, "fun", ⟨1, 1⟩⟩, ⟨12, "f", ⟨1, 5⟩⟩, ⟨3, "(", ⟨1, 6⟩⟩, ⟨4, ")", ⟨1, 7⟩⟩, ⟨5, "\x7b", ⟨1, 9⟩⟩,
   ⟨9, ";", ⟨1, 11⟩⟩, ⟨9, ";", ⟨1, 12⟩⟩, ⟨12, "a", ⟨1, 14⟩⟩, ⟨6, "\x7d", ⟨1, 16⟩⟩]

theorem parse_accepts_words_block :
    (∀ t ∈ blockTokens, t.isEnd = false) ∧ (Token.ending ⟨1, 17⟩).isEnd = true ∧
    (parse (blockTokens ++ [.ending ⟨1, 17⟩]) Rule.kotlinFile.index).errors = [] ∧
    Derives [.rule .kotlinFile] (blockTokens.map Token.symbol ++ [.endOfInput]) ∧
    IsDerivation (parse (blockTokens ++ [.ending ⟨1, 17⟩]) Rule.kotlinFile.index).tree ∧
    (parse (blockTokens ++ [.ending ⟨1, 17⟩]) Rule.kotlinFile.index).tree.tokens =
      blockTokens ++ [.ending ⟨1, 17⟩] := by
  have hinner : ∀ t ∈ blockTokens, t.isEnd = false := by decide
  have herrors : (parse (blockTokens ++ [.ending ⟨1, 17⟩]) Rule.kotlinFile.index).errors = [] := by
    decide +kernel
  obtain ⟨haccepts, htree⟩ := parse_accepts_words blockTokens (.ending ⟨1, 17⟩) hinner rfl
  exact ⟨hinner, rfl, herrors, haccepts.mp herrors, (htree herrors).1, (htree herrors).2.2⟩

end File

end GoldenTree.Grammar
