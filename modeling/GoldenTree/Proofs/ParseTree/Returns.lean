import GoldenTree.Proofs.Grammar.Returns
import GoldenTree.Proofs.ParseTree.Terminals
import GoldenTree.Recognition.Session

/-! Trees of sources whose line breaks have carriage returns. They are the trees of the sources
without: what the lexer and the parser see differently shows neither in a terminal nor in the line
of an error. -/
namespace GoldenTree.ParseTree

open Grammar Recognition Text

variable {r : Recognizer}

/-! Parse trees show no more of a concrete tree than its coarse form. -/

theorem ofToken_coarse (r : Recognizer) (t : Token) : ofToken r t.coarse = ofToken r t := by
  obtain ⟨hnewline, hreturn⟩ := not_mem_escapeBreaks t.text.toList
  simp only [ofToken, Token.coarse, String.toList_ofList,
    escapeBreaks_of_not_mem hnewline hreturn]

mutual

theorem ofConcrete_coarse (r : Recognizer) :
    ∀ t : ConcreteTree, ofConcrete r t.coarse = ofConcrete r t
  | .terminal token => congrArg Except.ok (ofToken_coarse r token)
  | .rule index slots => by
    rw [ConcreteTree.coarse, ofConcrete, ofConcrete, ofSlots_coarse r slots]

theorem ofSlots_coarse (r : Recognizer) :
    ∀ slots, ofSlots r (ConcreteTree.coarseSlots slots) = ofSlots r slots
  | [] => rfl
  | none :: slots => ofSlots_coarse r slots
  | some tree :: slots => by
    rw [ConcreteTree.coarseSlots, ofSlots, ofSlots, ofConcrete_coarse r tree,
      ofSlots_coarse r slots]

end

theorem ofRoot_coarse (r : Recognizer) (name : String) (t : ConcreteTree) :
    ofRoot r name t.coarse = ofRoot r name t := by
  cases t with
  | terminal token => rw [ConcreteTree.coarse, ofRoot, ofRoot, ofToken_coarse]
  | rule index slots => rw [ConcreteTree.coarse, ofRoot, ofRoot, ofSlots_coarse]

theorem parseFrom_cases (rule : Nat) : parseFrom rule = kotlinFile ∨
    parseFrom rule = declaration statements ∨ parseFrom rule = statements ∨
      parseFrom rule = expression ∨ parseFrom rule = pure (.rule rule []) := by
  unfold parseFrom
  by_cases hfile : rule = Rule.kotlinFile.index
  · exact .inl (if_pos hfile)
  rw [if_neg hfile]
  by_cases hdeclaration : rule = Rule.declaration.index
  · exact .inr (.inl (if_pos hdeclaration))
  rw [if_neg hdeclaration]
  by_cases hstatements : rule = Rule.statements.index
  · exact .inr (.inr (.inl (if_pos hstatements)))
  by_cases hexpression : rule = Rule.expression.index
  · exact .inr (.inr (.inr (.inl ((if_neg hstatements).trans (if_pos hexpression)))))
  · exact .inr (.inr (.inr (.inr ((if_neg hstatements).trans (if_neg hexpression)))))

/-- From every rule, a list of tokens that goes on to its end has a tree. -/
theorem exists_ofRoot_parse {tokens : List Token} (hends : (⟨tokens, 0⟩ : Cursor).Ends)
    (rule : Nat) (name : String) :
    ∃ t, ofRoot recognizer name (Grammar.parse tokens rule).tree = .ok t := by
  have hrules : ∀ tree : ConcreteTree, OfRules tree → ∃ t, ofRoot recognizer name tree = .ok t :=
    fun tree h => (exists_ofRoot h name).imp fun _ ht => ht.1
  have hrule : ∀ {r : Rule} {p : Parser ConcreteTree}, ParsesRule r p ⟨tokens, 0⟩ →
      OfRules (p ⟨tokens, 0⟩).value := fun h => h.rules _ (List.mem_singleton_self _)
  rw [Grammar.parse]
  rcases parseFrom_cases rule with h | h | h | h | h <;> rw [h]
  · exact hrules _ (kotlinFile_ofRules hends)
  · exact hrules _ (hrule (declaration_parses (parsesBelow_statements _) hends))
  · exact hrules _ (hrule (statements_parses hends))
  · exact hrules _ (hrule (expression_parses hends))
  · exact ⟨ParseTree.rule name [], rfl⟩

theorem ends_tokenize (source : String) : (⟨(tokenize source).1, 0⟩ : Cursor).Ends := by
  obtain ⟨inner, p, htokens, -⟩ := (scan_tokenize source).exists_ending
  exact ⟨.ending p, by simp [htokens], rfl⟩

/-- What there is for a rule of the table. -/
theorem exists_ruleIndex? {name : String} (h : name ∈ r.ruleNames) :
    ∃ index, r.ruleIndex? name = some index := by
  have hsome : (r.ruleIndex? name).isSome = true := by
    rw [Recognizer.ruleIndex?, List.findIdx?_isSome, List.any_eq_true]
    exact ⟨name, h, beq_self_eq_true name⟩
  exact Option.isSome_iff_exists.mp hsome

theorem ruleIndex?_eq_none {name : String} (h : name ∉ r.ruleNames) :
    r.ruleIndex? name = none := by
  rw [Recognizer.ruleIndex?, List.findIdx?_eq_none_iff]
  intro other hother
  rw [beq_eq_false_iff_ne]
  rintro rfl
  exact h hother

/-- A source builds the same tree with line breaks of two characters as with newlines, with the same
lexer errors and as many parser errors, on the same lines. Only a root rule that the grammar does
not have builds nothing, for either of them. -/
theorem parse_crlf (b : TreeBuilder) (memo : ContextMemo Visit) (source : String)
    (hreturn : '\r' ∉ source.toList) :
    let session : Session := ⟨recognizer, b, memo⟩
    if b.rootRule ∈ recognizer.ruleNames then
      ∃ built built', (session.parse source).1 = .ok built ∧
        (session.parse (crlf source)).1 = .ok built' ∧ built'.tree = built.tree ∧
        built'.lexerErrors = built.lexerErrors ∧
        built'.parserErrors.map (·.position.line) = built.parserErrors.map (·.position.line)
    else
      (session.parse source).1 = .error (.unknownRootRule b.rootRule) ∧
        (session.parse (crlf source)).1 = .error (.unknownRootRule b.rootRule) := by
  intro session
  have hbuild : ∀ source, (session.parse source).1 = (b.build recognizer source).built :=
    fun _ => rfl
  simp only [hbuild]
  split
  · next hroot =>
    obtain ⟨index, hindex⟩ := exists_ruleIndex? hroot
    obtain ⟨htokens, herrors⟩ := tokenize_crlf hreturn
    obtain ⟨htree, hlines⟩ := parse_alike htokens index
    obtain ⟨t, ht⟩ := exists_ofRoot_parse (ends_tokenize source) index b.rootRule
    have ht' : ofRoot recognizer b.rootRule (Grammar.parse (tokenize (crlf source)).1 index).tree =
        .ok t := by
      rw [← ofRoot_coarse, htree, ofRoot_coarse, ht]
    refine ⟨⟨t, (tokenize source).2, (Grammar.parse (tokenize source).1 index).errors⟩,
      ⟨t, (tokenize (crlf source)).2, (Grammar.parse (tokenize (crlf source)).1 index).errors⟩,
      ?_, ?_, rfl, herrors, hlines⟩
    · simp only [TreeBuilder.build, hindex]
      exact congrArg (Except.map _) ht
    · simp only [TreeBuilder.build, hindex]
      exact congrArg (Except.map _) ht'
  · next hroot => simp only [TreeBuilder.build, ruleIndex?_eq_none hroot, and_self]

/-- A comment in front of a line break, and an error behind it. -/
def commentedSource : String := "val x = 1 // one\nfun\n"

theorem parse_crlf_commentedSource : '\r' ∉ commentedSource.toList ∧
    (tokenize (crlf commentedSource)).1 ≠ (tokenize commentedSource).1 ∧
    ∃ built built', ((Session.new recognizer .standard).parse commentedSource).1 = .ok built ∧
      ((Session.new recognizer .standard).parse (crlf commentedSource)).1 = .ok built' ∧
      built'.tree = built.tree ∧ built'.lexerErrors = built.lexerErrors ∧
      built'.parserErrors.map (·.position.line) = built.parserErrors.map (·.position.line) := by
  have hreturn : '\r' ∉ commentedSource.toList := by decide +kernel
  have hbuilt := parse_crlf .standard .empty commentedSource hreturn
  rw [if_pos (by decide +kernel)] at hbuilt
  exact ⟨hreturn, by decide +kernel, hbuilt⟩

end GoldenTree.ParseTree
