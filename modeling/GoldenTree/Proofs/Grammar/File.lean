import GoldenTree.Proofs.Grammar.Trees

/-! A whole file: its tree holds the tokens up to the end of input, and fits the grammar unless an
error was reported. -/
namespace GoldenTree.Grammar

open Body GoldenTree.Grammar.Parser

variable {c : Cursor}

theorem topLevelObject_parses (hc : c.Ends) : ParsesRule .topLevelObject topLevelObject c := by
  have object := declaration_parses (parsesBelow_statements c.size) hc
  by_cases h : (declaration statements c).cursor.symbol = .newline ∨
      (declaration statements c).cursor.symbol = .semicolon
  · have breaks := semis_parses (object.ends hc) h
    simpa [ParsesRule, topLevelObject, enter, lookahead, h]
      using (object.before breaks.present.last).node (r := .topLevelObject)
  · simpa [ParsesRule, topLevelObject, enter, lookahead, h]
      using (object.before (Parses.absent _).last).node (r := .topLevelObject)

theorem propertyDeclaration_tokens_ne_nil (h : c.symbol = .valKeyword) :
    (propertyDeclaration c).value.tokens ≠ [] := by
  have keyword := expect_tokens_ne_nil h
  by_cases hsign : (simpleIdentifier (expect .valKeyword c).cursor).cursor.symbol = .assign <;>
    simp [propertyDeclaration, enter, lookahead, hsign, keyword]

theorem functionDeclaration_tokens_ne_nil {statements : Parser ConcreteTree}
    (h : c.symbol = .funKeyword) : (functionDeclaration statements c).value.tokens ≠ [] := by
  have keyword := expect_tokens_ne_nil h
  by_cases hbody : (functionValueParameters
      (simpleIdentifier (expect .funKeyword c).cursor).cursor).cursor.symbol = .leftBrace <;>
    simp [functionDeclaration, enter, lookahead, hbody, keyword, List.filterMap_map]

theorem topLevelObject_tokens_ne_nil (h : c.symbol = .funKeyword ∨ c.symbol = .valKeyword) :
    (topLevelObject c).value.tokens ≠ [] := by
  have object : (declaration statements c).value.tokens ≠ [] := by
    rcases h with h | h
    · have function : (functionDeclaration statements c).value.tokens ≠ [] :=
        functionDeclaration_tokens_ne_nil h
      simpa [declaration, enter, lookahead, h] using function
    · have property := propertyDeclaration_tokens_ne_nil h
      simpa [declaration, enter, lookahead, h] using property
  by_cases hbreak : (declaration statements c).cursor.symbol = .newline ∨
      (declaration statements c).cursor.symbol = .semicolon <;>
    simp [topLevelObject, enter, lookahead, hbreak, object]

/-- The line breaks after an object are its own. -/
theorem topLevelObject_stops (hc : c.Ends) : (topLevelObject c).cursor.symbol ≠ .newline := by
  have object := declaration_parses (parsesBelow_statements c.size) hc
  by_cases h : (declaration statements c).cursor.symbol = .newline ∨
      (declaration statements c).cursor.symbol = .semicolon
  · have hstop :
        semisItem (many semisItem (declaration statements c).cursor).cursor.symbol = none := by
      refine many_stops ?_ (object.ends hc)
      intro d hd p hp
      have step := semisItem_parses hd hp
      exact ⟨step.ends hd, step.size_lt (semisItem_tokens_ne_nil hp)⟩
    intro hnewline
    simp [topLevelObject, semis, enter, lookahead, h] at hnewline
    rw [hnewline] at hstop
    cases hstop
  · have hne : (declaration statements c).cursor.symbol ≠ .newline := fun h' => h (.inl h')
    simpa [topLevelObject, enter, lookahead, h] using hne

theorem fileItem_parses (hc : c.Ends) {p : Parser (List ConcreteTree)}
    (hp : fileItem c.symbol = some p) :
    ParsesBody (alt (symbol .newline) (rule .topLevelObject)) p c := by
  have hobject (hq : some (do return [← topLevelObject]) = some p) :
      ParsesBody (alt (symbol .newline) (rule .topLevelObject)) p c := by
    obtain rfl := Option.some.inj hq
    have object := (topLevelObject_parses hc).right (a := symbol .newline)
    simpa [ParsesBody] using object
  unfold fileItem at hp
  split at hp
  · cases hp
  · next h =>
    obtain rfl := Option.some.inj hp
    have newline := consume_parses hc (by simp [h])
    rw [h] at newline
    simpa [ParsesBody] using newline.left (b := rule .topLevelObject)
  · exact hobject hp
  · exact hobject hp
  · obtain rfl := Option.some.inj hp
    exact extraneous_parses _ hc ‹_›

theorem fileItems_parses (hc : c.Ends) :
    ParsesBody (many (alt (symbol .newline) (rule .topLevelObject))) (many fileItem) c :=
  many_parses (fun _ _ hd _ hp => fileItem_parses hd hp) hc

theorem fileItem_tokens_ne_nil {p : Parser (List ConcreteTree)}
    (hp : fileItem c.symbol = some p) : (p c).value.flatMap ConcreteTree.tokens ≠ [] := by
  have hobject (h : c.symbol = .funKeyword ∨ c.symbol = .valKeyword)
      (hq : some (do return [← topLevelObject]) = some p) :
      (p c).value.flatMap ConcreteTree.tokens ≠ [] := by
    obtain rfl := Option.some.inj hq
    simpa using topLevelObject_tokens_ne_nil h
  unfold fileItem at hp
  split at hp
  · cases hp
  · obtain rfl := Option.some.inj hp
    simpa using consume_tokens_ne_nil
  · next h => exact hobject (.inl h) hp
  · next h => exact hobject (.inr h) hp
  · obtain rfl := Option.some.inj hp
    simpa [extraneous, report] using consume_tokens_ne_nil

theorem fileItem_eq_none_iff {s : Symbol} : fileItem s = none ↔ s = .endOfInput := by
  cases s <;> simp [fileItem]

theorem file_stops (hc : c.Ends) : (many fileItem c).cursor.symbol = .endOfInput := by
  refine fileItem_eq_none_iff.mp (many_stops ?_ hc)
  intro d hd p hp
  have step := fileItem_parses hd hp
  exact ⟨step.ends hd, step.size_lt (fileItem_tokens_ne_nil hp)⟩

theorem fileItem_fits (hc : c.Ends) {p : Parser (List ConcreteTree)}
    (hp : fileItem c.symbol = some p) (hclean : Clean (p c).events) :
    (c.symbol = .newline ∧ Fits (symbol .newline) (p c).value) ∨
      ((p c).cursor.symbol ≠ .newline ∧ Fits (rule .topLevelObject) (p c).value) := by
  have hobject (hq : some (do return [← topLevelObject]) = some p) :
      (p c).cursor.symbol ≠ .newline ∧ Fits (rule .topLevelObject) (p c).value := by
    obtain rfl := Option.some.inj hq
    have object := topLevelObject_parses hc
    exact ⟨topLevelObject_stops hc, object.fits (by simpa using hclean)⟩
  unfold fileItem at hp
  split at hp
  · cases hp
  · next h =>
    obtain rfl := Option.some.inj hp
    have newline := consume_parses hc (by simp [h])
    rw [h] at newline
    exact .inl ⟨h, newline.fits (by simpa using hclean)⟩
  · exact .inr (hobject hp)
  · exact .inr (hobject hp)
  · obtain rfl := Option.some.inj hp
    simp [extraneous, report] at hclean

/-- Objects take the line breaks behind them, so a line break that is left stands before all
objects. -/
theorem file_fits (hc : c.Ends) (hclean : Clean (many fileItem c).events) :
    Fits (seq (many (symbol .newline)) (many (rule .topLevelObject))) (many fileItem c).value ∧
      (c.symbol ≠ .newline → Fits (many (rule .topLevelObject)) (many fileItem c).value) := by
  fun_induction Parser.many fileItem c with
  | case1 c h => exact ⟨Fits.many_nil.seq Fits.many_nil, fun _ => Fits.many_nil⟩
  | case2 c p h first hlt others ih =>
    obtain ⟨hfirst, hothers⟩ := clean_append.mp hclean
    obtain ⟨breaks, objects⟩ := ih ((fileItem_parses hc h).ends hc) hothers
    rcases fileItem_fits hc h hfirst with ⟨hnewline, newline⟩ | ⟨hnext, object⟩
    · exact ⟨newline.many_seq breaks, fun hne => absurd hnewline hne⟩
    · have all := object.many_append (objects hnext)
      exact ⟨Fits.many_nil.seq all, fun _ => all⟩
  | case3 c p h first hlt =>
    exact absurd ((fileItem_parses hc h).size_lt (fileItem_tokens_ne_nil h)) hlt

/-- The tokens of a file are those up to the end of input. -/
theorem kotlinFile_tokens (hc : c.Ends) : ∃ read last rest,
    (kotlinFile c).value.tokens = read ++ [last] ∧ c.rest = read ++ last :: rest ∧
      (∀ t ∈ read, t.isEnd = false) ∧ last.isEnd = true := by
  have items := fileItems_parses hc
  obtain ⟨last, rest, hrest, hsymbol⟩ := (items.ends hc).head
  have hend : last.isEnd = true := by
    rw [isEnd_iff_symbol, ← hsymbol, file_stops hc]
  refine ⟨_, last, rest, ?_, ?_, items.inner, hend⟩
  · simp [kotlinFile, enter, consume, hrest, hend, ConcreteTree.tokens]
  · rw [← hrest]
    exact items.rest

theorem ending_fits (hc : c.Ends) (h : c.symbol = .endOfInput) :
    Fits (symbol .endOfInput) [(consume c).value] := by
  obtain ⟨last, rest, hrest, hsymbol⟩ := hc.head
  have hend : last.isEnd = true := by rw [isEnd_iff_symbol, ← hsymbol, h]
  refine ⟨⟨[.symbol .endOfInput], ?_, .part _⟩, ?_⟩
  · simp [consume, hrest, hend, part?, ← hsymbol, h]
  · simp only [consume, hrest, hend, List.mem_singleton, forall_eq]
    exact .terminal last

theorem kotlinFile_fits (hc : c.Ends) (hclean : Clean (kotlinFile c).events) :
    Fits (rule .kotlinFile) [(kotlinFile c).value] := by
  have items := fileItems_parses hc
  have hitems : Clean (many fileItem c).events := by
    simp only [kotlinFile, enter, bind_apply, many_bind_apply, List.singleton_append, clean_enter,
      clean_append] at hclean
    exact hclean.1
  have objects := (file_fits hc hitems).1
  have ending := ending_fits (items.ends hc) (file_stops hc)
  have whole : Fits Rule.kotlinFile.body
      ((many fileItem c).value ++ [(consume (many fileItem c).cursor).value]) := by
    refine (objects.seq ending).mono ?_
    intro row production
    cases production with
    | seq front last =>
      cases front with
      | seq newlines rest =>
        have tail := Body.Produces.seq rest (.seq last .empty)
        rw [List.append_assoc]
        simpa [Rule.body, Body.sequence] using newlines.seq tail
  simpa [kotlinFile, enter] using whole.node

end GoldenTree.Grammar
