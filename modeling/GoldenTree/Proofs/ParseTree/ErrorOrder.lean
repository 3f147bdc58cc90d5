import GoldenTree.Proofs.Grammar.Walk
import GoldenTree.Proofs.ParseTree.Returns

/-! Errors come in the order of the text. The pieces of a source begin one after the other, so no
two errors of the lexer are at one place; those of the parser are about tokens, of which it never
goes back to an earlier one. -/
namespace GoldenTree

open Text

namespace Grammar

/-- Where the pieces begin if the first begins at `p`, and where the last of them ends. -/
def starts (p : Position) : List Piece → List Position
  | [] => [p]
  | piece :: rest => p :: starts (p.advance piece.text) rest

variable {p q : Position} {parts : List Piece}

theorem le_of_mem_starts (h : q ∈ starts p parts) : p ≤ q := by
  induction parts generalizing p with
  | nil => exact List.mem_singleton.mp h ▸ Position.le_refl _
  | cons piece rest ih =>
    rcases List.mem_cons.mp h with rfl | h
    · exact Position.le_refl _
    · exact Position.le_trans (Position.le_advance p _) (ih h)

theorem pairwise_starts (h : ∀ piece ∈ parts, piece.text ≠ []) :
    (starts p parts).Pairwise (· < ·) := by
  induction parts generalizing p with
  | nil => exact List.pairwise_singleton ..
  | cons piece rest ih =>
    have hfirst := Position.lt_advance (p := p) (h piece (List.mem_cons_self ..))
    have hrest := ih (p := p.advance piece.text) fun piece hp => h piece (List.mem_cons_of_mem _ hp)
    refine List.pairwise_cons.mpr ⟨fun q hq => ?_, hrest⟩
    exact Position.lt_of_lt_of_le hfirst (le_of_mem_starts hq)

/-- Tokens and errors stand where pieces begin, and the final token where the last one ends. -/
theorem place_sublist_starts (p : Position) (parts : List Piece) :
    ((place p parts).1.map Token.position).Sublist (starts p parts) ∧
      ((place p parts).2.map SyntaxError.position).Sublist (starts p parts) := by
  induction parts generalizing p with
  | nil => exact ⟨List.Sublist.refl _, List.nil_sublist _⟩
  | cons piece rest ih =>
    obtain ⟨htokens, herrors⟩ := ih (p.advance piece.text)
    cases piece with
    | token symbol text => exact ⟨htokens.cons_cons p, herrors.cons p⟩
    | skipped text => exact ⟨htokens.cons p, herrors.cons p⟩
    | unknown c => exact ⟨htokens.cons p, herrors.cons_cons p⟩

theorem text_ne_nil_of_mem_pieces {s : List Char} {piece : Piece} (h : piece ∈ pieces s) :
    piece.text ≠ [] := by
  fun_induction pieces s with
  | case1 => cases h
  | case2 c r ih =>
    rcases List.mem_cons.mp h with rfl | h
    · exact text_nextPiece_ne_nil c r
    · exact ih h

/-- No two tokens of a source begin at one place, and no two of its errors are at one. -/
theorem pairwise_tokenize (source : String) :
    (tokenize source).1.Pairwise (·.position < ·.position) ∧
      (tokenize source).2.Pairwise (·.position < ·.position) := by
  obtain ⟨htokens, herrors⟩ := place_sublist_starts .start (pieces source.toList)
  have hstarts : (starts .start (pieces source.toList)).Pairwise (· < ·) :=
    pairwise_starts fun _ => text_ne_nil_of_mem_pieces
  exact ⟨List.pairwise_map.mp (hstarts.sublist htokens),
    List.pairwise_map.mp (hstarts.sublist herrors)⟩

end Grammar

namespace ParseTree

open Grammar Recognition

/-- Several errors may be about one token. -/
example : (Grammar.parse (tokenize "fun").1 Rule.kotlinFile.index).errors.map (·.position) =
    [⟨1, 4⟩, ⟨1, 4⟩, ⟨1, 4⟩] := by decide +kernel

/-- A tree is built from every rule of the grammar, with all that was reported. -/
theorem exists_build_of_mem {b : TreeBuilder} (hroot : b.rootRule ∈ recognizer.ruleNames)
    (source : String) : ∃ t index, (b.build recognizer source).built =
      .ok ⟨t, (tokenize source).2, (Grammar.parse (tokenize source).1 index).errors⟩ := by
  obtain ⟨index, hindex⟩ := exists_ruleIndex? hroot
  obtain ⟨t, ht⟩ := exists_ofRoot_parse (ends_tokenize source) index b.rootRule
  refine ⟨t, index, ?_⟩
  simp only [TreeBuilder.build, hindex]
  exact congrArg (Except.map _) ht

/-- The errors that come with a tree stand in the order of the text: those of the lexer each behind
the one before, those of the parser none before the one before, and each of these at a token. Only a
root rule that the grammar does not have builds nothing. -/
theorem errors_in_order (b : TreeBuilder) (memo : ContextMemo Visit) (source : String) :
    let session : Session := ⟨recognizer, b, memo⟩
    if b.rootRule ∈ recognizer.ruleNames then
      ∃ built, (session.parse source).1 = .ok built ∧
        built.lexerErrors.Pairwise (·.position < ·.position) ∧
        built.parserErrors.Pairwise (·.position ≤ ·.position) ∧
        ∀ e ∈ built.parserErrors, ∃ t ∈ (recognizer.tokenize source).1, t.position = e.position
    else (session.parse source).1 = .error (.unknownRootRule b.rootRule) := by
  intro session
  have hbuild : (session.parse source).1 = (b.build recognizer source).built := rfl
  rw [hbuild]
  split
  · next hroot =>
    obtain ⟨t, index, hbuilt⟩ := exists_build_of_mem hroot source
    obtain ⟨htokens, herrors⟩ := pairwise_tokenize source
    obtain ⟨last, hlast, -⟩ := ends_tokenize source
    have hne : (tokenize source).1 ≠ [] := List.ne_nil_of_mem hlast
    have walk := walks_parseFrom index ⟨(tokenize source).1, 0⟩
    exact ⟨_, hbuilt, herrors, walk.pairwise_errors hne htokens, walk.exists_token hne⟩
  · next hroot => simp only [TreeBuilder.build, ruleIndex?_eq_none hroot]

end ParseTree

end GoldenTree
