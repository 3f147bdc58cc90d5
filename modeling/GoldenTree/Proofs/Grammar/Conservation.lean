import GoldenTree.Proofs.Grammar.File

/-! No token is lost, doubled or moved by parsing, whatever is reported on the way. -/
namespace GoldenTree.Grammar

open GoldenTree.Grammar.Parser

/-- The tokens before the first end of input. -/
def beforeEnd (tokens : List Token) : List Token := tokens.takeWhile fun t => !t.isEnd

/-- The first end of input; that of an empty list is made up at the start of the text. -/
def firstEnd (tokens : List Token) : Token := (tokens.find? Token.isEnd).getD (.ending .start)

variable {c : Cursor} {read rest : List Token} {last : Token} {tokens : List Token} {r : Rule}
  {p : Parser ConcreteTree}

theorem beforeEnd_append (hread : ∀ t ∈ read, t.isEnd = false) (rest : List Token) :
    beforeEnd (read ++ rest) = read ++ beforeEnd rest :=
  List.takeWhile_append_of_pos (by simpa using hread)

theorem beforeEnd_append_end (hread : ∀ t ∈ read, t.isEnd = false) (hlast : last.isEnd = true) :
    beforeEnd (read ++ last :: rest) = read := by
  rw [beforeEnd_append hread]
  simp [beforeEnd, hlast]

theorem firstEnd_append_end (hread : ∀ t ∈ read, t.isEnd = false) (hlast : last.isEnd = true) :
    firstEnd (read ++ last :: rest) = last := by
  have hnone : read.find? Token.isEnd = none := by simpa using hread
  simp [firstEnd, hnone, hlast]

/-- What a rule takes are the first tokens, none of which ends the input. -/
theorem ParsesRule.tokens_isPrefix (h : ParsesRule r p c) :
    (p c).value.tokens <+: beforeEnd c.rest := by
  have hinner : ∀ t ∈ (p c).value.tokens, t.isEnd = false := by simpa using h.inner
  have hrest : c.rest = (p c).value.tokens ++ (p c).cursor.rest := by simpa using h.rest
  rw [hrest, beforeEnd_append hinner]
  exact List.prefix_append ..

theorem kotlinFile_tokens_of_ends (hc : c.Ends) :
    (kotlinFile c).value.tokens = beforeEnd c.rest ++ [firstEnd c.rest] := by
  obtain ⟨read, last, rest, htokens, hrest, hread, hlast⟩ := kotlinFile_tokens hc
  rw [htokens, hrest, beforeEnd_append_end hread hlast, firstEnd_append_end hread hlast]

theorem ofRules_consume : OfRules (consume c).value := by
  unfold consume
  split
  · exact .terminal _
  · split <;> exact .terminal _

theorem kotlinFile_ofRules (hc : c.Ends) : OfRules (kotlinFile c).value := by
  have items := fileItems_parses hc
  have hvalue : (kotlinFile c).value = node .kotlinFile
      ((many fileItem c).value ++ [(consume (many fileItem c).cursor).value]) := by
    simp [kotlinFile, enter]
  rw [hvalue]
  refine .rule fun t ht => ?_
  have hmem : t ∈ (many fileItem c).value ∨ t = (consume (many fileItem c).cursor).value := by
    simpa using ht
  rcases hmem with hmem | rfl
  · exact items.rules t hmem
  · exact ofRules_consume

/-! Without tokens, no rule takes any; a file makes up its end of input. -/

/-- The place in an empty token list. -/
def nowhere : Cursor := ⟨[], 0⟩

theorem many_of_none {α : Type} {item : Symbol → Option (Parser (List α))}
    (h : item c.symbol = none) : many item c = ⟨[], c, []⟩ := by
  rw [many]
  simp only [h]

theorem kotlinFile_nowhere : (kotlinFile nowhere).value.tokens = [.ending .start] := by
  have hnone : many fileItem nowhere = ⟨[], nowhere, []⟩ := many_of_none rfl
  simp [kotlinFile, enter, hnone]
  rfl

theorem statements_nowhere : (statements nowhere).value.tokens = [] := by
  rw [statements]
  simp only [enter, bind_apply, many_bind_apply, pure_apply]
  rw [many_of_none rfl]
  simp

theorem declaration_nowhere : (declaration statements nowhere).value.tokens = [] := rfl

theorem expression_nowhere : (expression nowhere).value.tokens = [] := rfl

/-- A token list that a parse may be given: it ends, or there is nothing to end. -/
def Complete (tokens : List Token) : Prop := tokens = [] ∨ ∃ t ∈ tokens, t.isEnd = true

theorem parse_tokens_of_file (h : Complete tokens) :
    (parse tokens Rule.kotlinFile.index).tree.tokens = beforeEnd tokens ++ [firstEnd tokens] := by
  rcases h with rfl | hends
  · exact kotlinFile_nowhere
  · exact kotlinFile_tokens_of_ends (c := ⟨tokens, 0⟩) hends

theorem tokens_isPrefix_of_parsesRule (hnowhere : (p nowhere).value.tokens = [])
    (hparses : ∀ c : Cursor, c.Ends → ParsesRule r p c) (h : Complete tokens) :
    (p ⟨tokens, 0⟩).value.tokens <+: beforeEnd tokens := by
  rcases h with rfl | hends
  · rw [nowhere] at hnowhere
    rw [hnowhere]
    exact List.nil_prefix
  · exact (hparses ⟨tokens, 0⟩ hends).tokens_isPrefix

theorem parse_tokens_isPrefix (h : Complete tokens)
    (hr : r = .declaration ∨ r = .statements ∨ r = .expression) :
    (parse tokens r.index).tree.tokens <+: beforeEnd tokens := by
  rcases hr with rfl | rfl | rfl
  · exact tokens_isPrefix_of_parsesRule declaration_nowhere
      (fun _ hc => declaration_parses (parsesBelow_statements _) hc) h
  · exact tokens_isPrefix_of_parsesRule statements_nowhere (fun _ hc => statements_parses hc) h
  · exact tokens_isPrefix_of_parsesRule expression_nowhere (fun _ hc => expression_parses hc) h

end GoldenTree.Grammar
