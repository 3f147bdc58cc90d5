import GoldenTree.ParseTree.Build
import GoldenTree.Proofs.Grammar.Conservation
import GoldenTree.Proofs.Grammar.Scan

/-! The terminals of a built tree. They are the tokens of its source, every one of them once and in
order, by name and with their text on one line. -/
namespace GoldenTree.ParseTree

open Grammar Recognition Text

/-- The names and texts of the terminals in pre-order. -/
def terminals (t : ParseTree) : List (String × String) :=
  t.subtrees.filterMap fun u => u.text?.map (u.name, ·)

theorem forestSubtrees_eq (ts : List ParseTree) : forestSubtrees ts = ts.flatMap subtrees := by
  induction ts with
  | nil => rfl
  | cons t ts ih => rw [forestSubtrees, ih, List.flatMap_cons]

@[simp] theorem terminals_rule (name : String) (ts : List ParseTree) :
    (rule name ts).terminals = ts.flatMap terminals := by
  simp [terminals, subtrees, forestSubtrees_eq, text?, List.filterMap_flatMap]
  rfl

/-- The name and the text of a token's terminal. -/
def tokenLabel (t : Token) : String × String :=
  ((recognizer.symbolName? t.type).getD (toString t.type),
    String.ofList (escapeBreaks t.text.toList))

/-- If every tree in the slots has a parse tree with the labels of its tokens, so have the slots. -/
theorem exists_ofSlots {slots : List (Option ConcreteTree)}
    (h : ∀ tree, some tree ∈ slots → ∃ t, ofConcrete recognizer tree = .ok t ∧
      t.terminals = tree.tokens.map tokenLabel) :
    ∃ ts, ofSlots recognizer slots = .ok ts ∧
      ts.flatMap terminals = (ConcreteTree.slotTokens slots).map tokenLabel := by
  induction slots with
  | nil => exact ⟨[], rfl, rfl⟩
  | cons slot slots ih =>
    obtain ⟨ts, hts, hterminals⟩ := ih fun tree htree => h tree (List.mem_cons_of_mem _ htree)
    cases slot with
    | none => exact ⟨ts, hts, hterminals⟩
    | some tree =>
      obtain ⟨t, ht, hlabels⟩ := h tree (List.mem_cons_self ..)
      refine ⟨t :: ts, by simp only [ofSlots, ht, hts], ?_⟩
      rw [List.flatMap_cons, hlabels, hterminals, ConcreteTree.slotTokens, List.map_append]

theorem exists_ofConcrete {tree : ConcreteTree} (h : OfRules tree) :
    ∃ t, ofConcrete recognizer tree = .ok t ∧ t.terminals = tree.tokens.map tokenLabel := by
  induction h with
  | terminal token => exact ⟨_, rfl, rfl⟩
  | @rule r slots _ ih =>
    obtain ⟨ts, hts, hterminals⟩ := exists_ofSlots ih
    have hname : recognizer.ruleNames[r.index]? = some r.name := by
      simp [recognizer, Rule.getElem?_all_index]
    refine ⟨rule r.name ts, by simp only [ofConcrete, hname, hts], ?_⟩
    rw [terminals_rule, hterminals, ConcreteTree.tokens]

/-- Under a root of any name too. -/
theorem exists_ofRoot {tree : ConcreteTree} (h : OfRules tree) (name : String) :
    ∃ t, ofRoot recognizer name tree = .ok t ∧ t.terminals = tree.tokens.map tokenLabel := by
  cases h with
  | terminal token => exact ⟨_, rfl, rfl⟩
  | rule nested =>
    obtain ⟨ts, hts, hterminals⟩ := exists_ofSlots fun tree ht => exists_ofConcrete (nested tree ht)
    refine ⟨rule name ts, by rw [ofRoot, hts]; rfl, ?_⟩
    rw [terminals_rule, hterminals, ConcreteTree.tokens]

/-- Every source has a tree, whose terminals are labelled as the tokens of the source. -/
theorem exists_build (ceiling : Nat) (source : String) : ∃ built,
    (({ TreeBuilder.standard with ceiling } : TreeBuilder).build recognizer source).built =
      .ok built ∧ built.tree.terminals = (tokenize source).1.map tokenLabel := by
  obtain ⟨inner, p, htokens, hinner⟩ := (scan_tokenize source).exists_ending
  have hends : (⟨(tokenize source).1, 0⟩ : Cursor).Ends := ⟨.ending p, by simp [htokens], rfl⟩
  have hall : (parse (tokenize source).1 Rule.kotlinFile.index).tree.tokens =
      (tokenize source).1 := by
    have hread : ∀ t ∈ inner, t.isEnd = false := fun t ht => (hinner t ht).1
    rw [parse_tokens_of_file (.inr hends), htokens, beforeEnd_append_end hread rfl,
      firstEnd_append_end hread rfl]
  have hroot : recognizer.ruleIndex? "kotlinFile" = some Rule.kotlinFile.index := by decide +kernel
  obtain ⟨t, ht, hterminals⟩ := exists_ofRoot (kotlinFile_ofRules hends) "kotlinFile"
  refine ⟨⟨t, (tokenize source).2, (parse (tokenize source).1 Rule.kotlinFile.index).errors⟩,
    ?_, ?_⟩
  · simp only [TreeBuilder.build, TreeBuilder.standard, hroot]
    exact congrArg (Except.map _) ht
  · rw [hterminals]
    exact congrArg (List.map tokenLabel) hall

theorem exists_symbolName {source : String} {t : Token} (ht : t ∈ (tokenize source).1) :
    ∃ name, recognizer.symbolName? t.type = some name := by
  obtain ⟨inner, p, htokens, hinner⟩ := (scan_tokenize source).exists_ending
  rw [htokens] at ht
  rcases List.mem_append.mp ht with ht | ht
  · exact (hinner t ht).2
  · obtain rfl := List.mem_singleton.mp ht
    exact ⟨"EOF", rfl⟩

/-- Parsing keeps every token in its place. A file takes all up to the first end of input, other
rules the first ones before it; and the terminals of a source's tree are its tokens, by symbolic
name and with their line breaks written out. -/
theorem tokens_kept :
    (∀ tokens : List Token, tokens = [] ∨ (∃ t ∈ tokens, t.isEnd = true) →
      (parse tokens Rule.kotlinFile.index).tree.tokens = beforeEnd tokens ++ [firstEnd tokens] ∧
      ∀ r, r = .declaration ∨ r = .statements ∨ r = .expression →
        (parse tokens (Rule.index r)).tree.tokens <+: beforeEnd tokens) ∧
    ∀ (ceiling : Nat) (source : String), ∃ built,
      (({ TreeBuilder.standard with ceiling } : TreeBuilder).build recognizer source).built =
        .ok built ∧
      built.tree.terminals.map (fun label => (some label.1, label.2)) =
        (recognizer.tokenize source).1.map fun t =>
          (recognizer.symbolName? t.type, String.ofList (escapeBreaks t.text.toList)) := by
  refine ⟨fun tokens h => ⟨parse_tokens_of_file h, fun r hr => parse_tokens_isPrefix h hr⟩, ?_⟩
  intro ceiling source
  obtain ⟨built, hbuilt, hterminals⟩ := exists_build ceiling source
  refine ⟨built, hbuilt, ?_⟩
  rw [hterminals, List.map_map]
  refine List.map_congr_left fun t ht => ?_
  obtain ⟨name, hname⟩ := exists_symbolName ht
  simp only [Function.comp_apply, tokenLabel, hname, Option.getD_some]

/-- A name that fits nowhere, and a keyword behind the end. -/
def strayTokens : List Token := [⟨12, "a", ⟨1, 1⟩⟩, .ending ⟨1, 2⟩, ⟨1, "fun", ⟨1, 3⟩⟩]

theorem tokens_kept_strayTokens :
    (∃ t ∈ strayTokens, t.isEnd = true) ∧
    (parse strayTokens Rule.kotlinFile.index).errors ≠ [] ∧
    (parse strayTokens Rule.kotlinFile.index).tree.tokens =
      [⟨12, "a", ⟨1, 1⟩⟩, .ending ⟨1, 2⟩] ∧
    (parse strayTokens Rule.expression.index).tree.tokens <+: [⟨12, "a", ⟨1, 1⟩⟩] := by
  have hend : ∃ t ∈ strayTokens, t.isEnd = true := by decide
  obtain ⟨hfile, hpart⟩ := tokens_kept.1 strayTokens (.inr hend)
  exact ⟨hend, by decide +kernel, hfile, hpart .expression (.inr (.inr rfl))⟩

end GoldenTree.ParseTree
