import GoldenTree.Proofs.Grammar.Lexeme
import GoldenTree.Proofs.Text.Position

/-! A source text read from left to right. Each piece of it is a token, is skipped or is reported,
where the text before it ends. -/
namespace GoldenTree.Grammar

open Text

/-- The tokens and errors of `rest`, once `before` was read. -/
inductive Scan : List Char → List Char → List Token → List SyntaxError → Prop
  | ending (before : List Char) : Scan before [] [.ending (.ofEnd before)] []
  | token {before rest behind word : List Char} {symbol : Symbol} {tokens : List Token}
      {errors : List SyntaxError} (front : Begins rest (.token symbol word) behind)
      (others : Scan (before ++ word) behind tokens errors) :
      Scan before rest (⟨symbol.code, String.ofList word, .ofEnd before⟩ :: tokens) errors
  | skipped {before rest behind text : List Char} {tokens : List Token}
      {errors : List SyntaxError} (front : Begins rest (.skipped text) behind)
      (others : Scan (before ++ text) behind tokens errors) : Scan before rest tokens errors
  | unknown {before rest behind : List Char} {c : Char} {tokens : List Token}
      {errors : List SyntaxError} (front : Begins rest (.unknown c) behind)
      (others : Scan (before ++ [c]) behind tokens errors) :
      Scan before rest tokens
        (⟨.ofEnd before, String.join ["token recognition error at: '", String.singleton c, "'"]⟩ ::
          errors)

variable {before rest behind s : List Char} {piece : Piece} {tokens : List Token}
  {errors : List SyntaxError}

theorem Begins.ne_nil (h : Begins rest piece behind) : rest ≠ [] := by
  cases h with
  | token lexeme _ => simp [ne_nil_of_isLexeme lexeme]
  | _ => simp

theorem pieces_of_begins (h : Begins rest piece behind) :
    pieces rest = piece :: pieces behind := by
  obtain ⟨c, r, rfl⟩ := List.exists_cons_of_ne_nil h.ne_nil
  rw [pieces_cons, begins_iff.mp h]

/-- By the pieces of the text: each is what is left begins with. -/
theorem scan_pieces (before s : List Char) :
    Scan before s (place (.ofEnd before) (pieces s)).1 (place (.ofEnd before) (pieces s)).2 := by
  fun_induction pieces s generalizing before with
  | case1 => exact .ending before
  | case2 c r ih =>
    have front := begins_nextPiece c r
    have others := ih (before ++ (nextPiece c r).1.text)
    rw [Position.ofEnd_append] at others
    generalize nextPiece c r = next at front others ⊢
    obtain ⟨piece, behind⟩ := next
    cases piece with
    | token symbol word => exact .token front others
    | skipped text => exact .skipped front others
    | unknown c => exact .unknown front others

theorem Scan.place_eq (h : Scan before s tokens errors) :
    place (.ofEnd before) (pieces s) = (tokens, errors) := by
  induction h with
  | ending before => simp [place]
  | token front _ ih =>
    rw [Position.ofEnd_append] at ih
    simp only [pieces_of_begins front, place, Piece.text, ih]
  | skipped front _ ih =>
    rw [Position.ofEnd_append] at ih
    simp only [pieces_of_begins front, place, Piece.text, ih]
  | unknown front _ ih =>
    rw [Position.ofEnd_append] at ih
    simp only [pieces_of_begins front, place, Piece.text, ih]

theorem scan_tokenize (source : String) :
    Scan [] source.toList (tokenize source).1 (tokenize source).2 := scan_pieces [] source.toList

theorem named_of_isLexeme {symbol : Symbol} {word : List Char} (h : IsLexeme symbol word) :
    symbol.code ≠ Token.endType ∧ ∃ name, (Symbol.ofCode symbol.code).name? = some name := by
  cases symbol with
  | endOfInput => exact h.elim
  | other code => exact h.elim
  | _ => exact ⟨by decide, _, rfl⟩

/-- The tokens of a text have names, and the end of input is the last of them only. -/
theorem Scan.exists_ending (h : Scan before s tokens errors) : ∃ inner p,
    tokens = inner ++ [.ending p] ∧
      ∀ t ∈ inner, t.isEnd = false ∧ ∃ name, (Symbol.ofCode t.type).name? = some name := by
  induction h with
  | ending before => exact ⟨[], _, rfl, by simp⟩
  | token front _ ih =>
    obtain ⟨inner, p, rfl, hinner⟩ := ih
    refine ⟨_ :: inner, p, rfl, fun t ht => ?_⟩
    rcases List.mem_cons.mp ht with rfl | ht
    · cases front with
      | token lexeme _ =>
        obtain ⟨hend, hname⟩ := named_of_isLexeme lexeme
        exact ⟨by simpa [Token.isEnd] using hend, hname⟩
    · exact hinner t ht
  | skipped _ _ ih => exact ih
  | unknown _ _ ih => exact ih

/-- Tokenizing accounts for every character once, in the one way there is. -/
theorem tokenize_eq_iff (source : String) (tokens : List Token) (errors : List SyntaxError) :
    tokenize source = (tokens, errors) ↔ Scan [] source.toList tokens errors := by
  constructor
  · intro h
    have hscan := scan_tokenize source
    rwa [h] at hscan
  · exact fun h => h.place_eq

end GoldenTree.Grammar
